import Monkey.Proofs.Eval.Unwinding
import Monkey.Proofs.Eval.Wholesome

/-!
Statements in sequence. A list of statements may be evaluated as a program, as a block, or one
statement after the other from outside. All three leave the same scopes and give the same object,
but that a program gives the value of a return alone. What stands behind statements that end in a
value goes on from there, and what stands behind a signal is never begun.
-/
namespace Monkey

def Object.unwrapped : Object → Object
  | .returnValue _ inner => inner
  | other => other

theorem Object.unwrapped_of_ordinary {object : Object} (ordinary : object.isSignal = false) :
    object.unwrapped = object := by
  cases object with
  | returnValue id inner => contradiction
  | _ => rfl

namespace Eval

/-- Evaluates statements one at a time, each for itself, up to the first that gives a signal. -/
def oneByOne (depth : Nat) (scope : ScopeId) (last : Object) :
    List Stmt → Store → Option Object × Store
  | [], store => (some last, store)
  | first :: rest, store =>
    match Eval.node depth scope (.statement first) store with
    | (some value, later) =>
      if value.isSignal then (some value, later) else oneByOne depth scope value rest later
    | (none, later) => (none, later)

/-- Evaluates the statements of a program in turn, up to the first that returns, whose value it gives,
or that fails. -/
def inTurn (depth : Nat) (scope : ScopeId) (last : Object) :
    List Stmt → Store → Option Object × Store
  | [], store => (some last, store)
  | first :: rest, store =>
    match statement (apply depth) scope first store with
    | (.ok value, later) => inTurn depth scope value rest later
    | (.error (.returned value), later) => (some value, later)
    | (.error (.failed cause), later) =>
      (some (later.create (.error · cause)).1, (later.create (.error · cause)).2)
    | (.error .exhausted, later) => (none, later)

section

variable {call : Call} {scope : ScopeId} {store later : Store}

theorem statements_stop {earlier : List Stmt} {start : Object} {stop : Signal}
    (stops : statements call scope start earlier store = (.error stop, later))
    (others : List Stmt) :
    statements call scope start (earlier ++ others) store = (.error stop, later) := by
  induction earlier generalizing store start with
  | nil => cases stops
  | cons first earlier ih =>
    cases ran : statement call scope first store with
    | mk outcome middle =>
      cases outcome with
      | ok value => exact (bind_of_ok ran _).trans (ih ((bind_of_ok ran _).symm.trans stops))
      | error stop' => exact (bind_of_error ran _).trans ((bind_of_error ran _).symm.trans stops)

theorem statements_start (start start' : Object) {ss : List Stmt} (nonempty : ss ≠ []) :
    statements call scope start ss = statements call scope start' ss := by
  cases ss with
  | nil => contradiction
  | cons first rest => rfl

end

variable {depth : Nat} {scope : ScopeId} {store : Store}

theorem eq_of_toObject?_ordinary {result : Except Signal Object × Store} {value : Object}
    {later : Store} (gives : toObject? result = (some value, later))
    (ordinary : value.isSignal = false) : result = (.ok value, later) := by
  obtain ⟨outcome, last⟩ := result
  cases outcome with
  | ok object =>
    cases gives
    rfl
  | error stop =>
    cases stop with
    | returned inner | failed cause =>
      cases gives
      contradiction
    | exhausted => cases gives

theorem oneByOne_eq_statements (wholesome : store.Wholesome scope) (last : Object)
    (ss : List Stmt) :
    oneByOne depth scope last ss store =
      toObject? (statements (apply depth) scope last ss store) := by
  induction ss generalizing store last with
  | nil => rfl
  | cons first rest ih =>
    have kept := Discipline.wholesome.kept_run depth scope (.statement first) wholesome
    change Discipline.wholesome.Kept scope store _
      (statement (apply depth) scope first store) at kept
    have single : Eval.node depth scope (.statement first) store =
        toObject? (statement (apply depth) scope first store) := rfl
    rw [oneByOne, single, statements]
    cases ran : statement (apply depth) scope first store with
    | mk outcome later =>
      rw [ran] at kept
      cases outcome with
      | ok value =>
        -- a value that were a signal would stop the one and not the other
        have ordinary : value.isSignal = false := (kept.good value rfl).1
        rw [bind_of_ok ran, ← ih kept.holds value, toObject?]
        simp only [ordinary, Bool.false_eq_true, if_false]
      | error stop =>
        rw [bind_of_error ran]
        cases stop with
        | returned value => rfl
        | failed cause => rfl
        | exhausted => rfl

/-- The loop of a program is that of a block whose returns are stopped. -/
theorem inTurn_eq_statements (last : Object) (ss : List Stmt) :
    inTurn depth scope last ss store =
      toObject? (catchReturn (statements (apply depth) scope last ss) store) := by
  induction ss generalizing store last with
  | nil => rfl
  | cons first rest ih =>
    rw [inTurn, catchReturn, statements]
    cases ran : statement (apply depth) scope first store with
    | mk outcome later =>
      cases outcome with
      | ok value =>
        rw [bind_of_ok ran]
        exact ih value
      | error stop =>
        rw [bind_of_error ran]
        cases stop with
        | returned value => rfl
        | failed cause => rfl
        | exhausted => rfl

theorem toObject?_catchReturn {step : Eval Object}
    (ordinary : ∀ value, (step store).1 = .ok value → value.isSignal = false) :
    (toObject? (catchReturn step store)).1 = (toObject? (step store)).1.map Object.unwrapped ∧
      (toObject? (catchReturn step store)).2.scopes = (toObject? (step store)).2.scopes := by
  unfold catchReturn
  generalize step store = result at ordinary
  obtain ⟨outcome, later⟩ := result
  cases outcome with
  | ok value =>
    exact ⟨congrArg some (Object.unwrapped_of_ordinary (ordinary value rfl)).symm, rfl⟩
  | error stop =>
    cases stop with
    | returned value => exact ⟨rfl, rfl⟩
    | failed cause => exact ⟨rfl, rfl⟩
    | exhausted => exact ⟨rfl, rfl⟩

theorem block_ordinary (wholesome : store.Wholesome scope) (ss : List Stmt) {value : Object}
    (gives : (block (apply depth) scope ss store).1 = .ok value) : value.isSignal = false :=
  ((Discipline.wholesome.kept_run depth scope (.block ss) wholesome).good value gives).1

theorem program_append_of_value {ss ts : List Stmt} {value : Object} {later : Store}
    (gives : block (apply depth) scope ss store = (.ok value, later)) (more : ts ≠ []) :
    Eval.program depth scope (ss ++ ts) store = Eval.program depth scope ts later := by
  have goesOn :
      block (apply depth) scope (ss ++ ts) store = block (apply depth) scope ts later := by
    rw [block, (statements_append gives ts).1, statements_start value .theNull more, block]
  rw [program_eq, program_eq, catchReturn, catchReturn, goesOn]

theorem program_append_of_stop {ss : List Stmt} {stop : Signal} {later : Store}
    (stops : block (apply depth) scope ss store = (.error stop, later)) (ts : List Stmt) :
    Eval.program depth scope (ss ++ ts) store = Eval.program depth scope ss store := by
  have stays : block (apply depth) scope (ss ++ ts) store = block (apply depth) scope ss store := by
    rw [stops]
    exact statements_stop stops ts
  rw [program_eq, program_eq, catchReturn, catchReturn, stays]

/-- A program is evaluated statement by statement. From an environment that binds no signal,
statements lead to the same scopes and the same object whether they are one program, one block or
are evaluated one at a time, but that a program gives the value inside an object that leaves a
function. If they end in a value, a program that goes on behind them is the program of the rest in
what they left. If not, it is the program without the rest. -/
theorem entry_points_agree (depth : Nat) {store : Store} {scope : ScopeId}
    (wholesome : store.Wholesome scope) (ss : List Stmt) :
    Eval.program depth scope ss store = inTurn depth scope .theNull ss store ∧
      oneByOne depth scope .theNull ss store = Eval.node depth scope (.block ss) store ∧
      (Eval.program depth scope ss store).1 =
        (Eval.node depth scope (.block ss) store).1.map Object.unwrapped ∧
      (Eval.program depth scope ss store).2.scopes =
        (Eval.node depth scope (.block ss) store).2.scopes ∧
      (∀ value later, Eval.node depth scope (.block ss) store = (some value, later) →
        value.isSignal = false →
          Eval.program depth scope ss store = (some value, later) ∧
          ∀ ts, ts ≠ [] →
            Eval.program depth scope (ss ++ ts) store = Eval.program depth scope ts later) ∧
      ((∀ value, (Eval.node depth scope (.block ss) store).1 = some value →
          value.isSignal = true) →
        ∀ ts, Eval.program depth scope (ss ++ ts) store = Eval.program depth scope ss store) := by
  have block_eq : Eval.node depth scope (.block ss) store =
      toObject? (block (apply depth) scope ss store) := node_eq ..
  obtain ⟨result, scopes⟩ := toObject?_catchReturn fun _ => block_ordinary wholesome ss
  refine ⟨(inTurn_eq_statements _ ss).symm, oneByOne_eq_statements wholesome _ ss, result, scopes,
    ?_, ?_⟩
  · intro value later gives ordinary
    have ended := eq_of_toObject?_ordinary (block_eq.symm.trans gives) ordinary
    refine ⟨?_, fun ts more => program_append_of_value ended more⟩
    rw [program_eq, catchReturn, ended, toObject?]
  · intro signals ts
    cases ended : block (apply depth) scope ss store with
    | mk outcome later =>
      cases outcome with
      | ok value =>
        -- a block never ends in a value that is a signal
        have ordinary := block_ordinary wholesome ss (congrArg Prod.fst ended)
        have signal := signals value (by rw [block_eq, ended]; rfl)
        rw [ordinary] at signal
        contradiction
      | error stop => exact program_append_of_stop ended ts

def keeping : Stmt := .letStmt "kept" (.bool true)

def leavingEarly : Stmt := .exprStmt (.cond (.ident "kept") [.returnStmt (.int 7)] none)

theorem keeping_then_leaving :
    Store.initial.Wholesome 0 ∧
      Eval.program 0 0 ([keeping] ++ [leavingEarly]) .initial =
        Eval.program 0 0 [leavingEarly] (Store.initial.set 0 "kept" (.ofBool true)) ∧
      oneByOne 0 0 .theNull [keeping, leavingEarly] .initial =
        Eval.node 0 0 (.block [keeping, leavingEarly]) .initial ∧
      (Eval.program 0 0 [keeping, leavingEarly] .initial).1 = some (.integer 3 7) ∧
      Eval.program 0 0 ([keeping, leavingEarly] ++ [keeping]) .initial =
        Eval.program 0 0 [keeping, leavingEarly] .initial := by
  have valid : Store.initial.Valid := Store.valid_empty.openScope nofun
  have wholesome : Store.initial.Wholesome 0 :=
    valid.wholesome Store.signalFree_initial Nat.zero_lt_one
  obtain ⟨-, -, -, -, goesOn, -⟩ := entry_points_agree 0 wholesome [keeping]
  obtain ⟨-, alike, unwrapped, -, -, stops⟩ := entry_points_agree 0 wholesome [keeping, leavingEarly]
  have left : (Eval.node 0 0 (.block [keeping, leavingEarly]) .initial).1 =
      some (.returnValue 4 (.integer 3 7)) := by decide +kernel
  have kept : Eval.node 0 0 (.block [keeping]) .initial =
      (some .theNull, Store.initial.set 0 "kept" (.ofBool true)) := rfl
  refine ⟨wholesome, (goesOn _ _ kept rfl).2 _ (List.cons_ne_nil _ _), alike, ?_, ?_⟩
  · rw [unwrapped, left]
    rfl
  · apply stops
    intro value gives
    rw [left] at gives
    cases gives
    rfl

end Eval

end Monkey
