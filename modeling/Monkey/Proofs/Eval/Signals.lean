import Monkey.Proofs.Eval.Frame
import Monkey.Proofs.Parse.Acceptance
import Monkey.Proofs.Scope.Binding
import Monkey.Run

/-!
Signals stay signals. An error object or an object on its way out of a function is what an outcome
is turned into at the end, never what a name is bound to or an operator is applied to. So an error
object says that an error was raised, and a run fails for nothing else.
-/
namespace Monkey

def Object.isSignal : Object → Bool
  | .returnValue .. => true
  | .error .. => true
  | _ => false

def Store.SignalFree (store : Store) : Prop :=
  ∀ value, store.Binds value → value.isSignal = false

theorem Store.signalFree_initial : Store.initial.SignalFree := by
  intro value binds
  exact absurd (binds_of_openScope binds) (not_binds_empty value)

def Discipline.ordinary : Discipline where
  Holds _ store := store.SignalFree
  Changes _ _ _ := True
  Fits _ value := value.isSignal = false
  unchanged _ _ := trivial
  changes_trans _ _ := trivial
  fits_later _ ordinary := ordinary
  counted free := ⟨free, trivial⟩
  integer _ _ := rfl
  string _ _ := rfl
  function _ _ _ := rfl
  null _ := rfl
  boolean _ value := by cases value <;> rfl
  found free found := free _ (Store.binds_of_get? found)
  bound free ordinary name := by
    refine ⟨?_, trivial⟩
    intro other binds
    rcases Store.binds_of_set binds with rfl | before
    · exact ordinary
    · exact free other before
  entered free _ := fun value binds => free value (Store.binds_of_openScope binds)
  left _ free _ := ⟨free, trivial⟩

namespace Eval

variable {depth : Nat} {scope : ScopeId} {store : Store}

inductive Tells : Except Signal Object → Object → Prop
  | value (object : Object) : Tells (.ok object) object
  | returned (id : ObjectId) (inner : Object) :
    Tells (.error (.returned inner)) (.returnValue id inner)
  | failed (id : ObjectId) (cause : EvalError) : Tells (.error (.failed cause)) (.error id cause)

theorem tells_of_toObject? {result : Except Signal Object × Store} {object : Object}
    (gives : (toObject? result).1 = some object) : Tells result.1 object := by
  obtain ⟨outcome, later⟩ := result
  cases outcome with
  | ok value =>
    cases gives
    exact .value _
  | error stop =>
    cases stop with
    | returned value =>
      cases gives
      exact .returned _ _
    | failed cause =>
      cases gives
      exact .failed _ _
    | exhausted => cases gives

theorem toObject?_of_failed {result : Except Signal Object × Store} {cause : EvalError}
    (failed : result.1 = .error (.failed cause)) :
    (toObject? result).1 = some (.error result.2.nextId cause) := by
  obtain ⟨outcome, later⟩ := result
  cases failed
  rfl

def Admissible (object : Object) : Prop :=
  object.isSignal = false ∨ (∃ id cause, object = .error id cause) ∨
    ∃ id inner, object = .returnValue id inner ∧ inner.isSignal = false

theorem admissible_of_kept {result : Except Signal Object × Store} {object : Object}
    (kept : Discipline.ordinary.Kept scope store Discipline.ordinary.Fits result)
    (gives : (toObject? result).1 = some object) : Admissible object := by
  have tells := tells_of_toObject? gives
  generalize ended : result.1 = outcome at tells
  cases tells with
  | value => exact .inl (kept.good _ ended)
  | returned id inner => exact .inr (.inr ⟨id, inner, rfl, kept.returned _ ended⟩)
  | failed id cause => exact .inr (.inl ⟨id, cause, rfl⟩)

theorem catchReturn_failed_iff (step : Eval Object) (store : Store) (cause : EvalError) :
    (catchReturn step store).1 = .error (.failed cause) ↔
      (step store).1 = .error (.failed cause) := by
  unfold catchReturn
  split
  · next value later stops => simp [stops]
  · rfl

theorem program_eq (depth : Nat) (scope : ScopeId) (program : Program) (store : Store) :
    Eval.program depth scope program store =
      toObject? (catchReturn (block (apply depth) scope program) store) := rfl

theorem program_admissible (free : store.SignalFree) (program : Program) {object : Object}
    (gives : (Eval.program depth scope program store).1 = some object) :
    object.isSignal = false ∨ ∃ id cause, object = .error id cause := by
  have kept := Discipline.ordinary.kept_run depth scope (.program program) free
  rw [program_eq] at gives
  rcases admissible_of_kept kept gives with ordinary | error | ⟨id, inner, rfl, _⟩
  · exact .inl ordinary
  · exact .inr error
  · have tells := tells_of_toObject? gives
    generalize ended : (catchReturn (block (apply depth) scope program) store).1 = outcome at tells
    cases tells with
    | value =>
      have ordinary := kept.good _ ended
      contradiction
    | returned => exact absurd ended (catchReturn_ne_returned _ _ _)

theorem program_error_iff (free : store.SignalFree) (program : Program) (cause : EvalError) :
    (∃ id, (Eval.program depth scope program store).1 = some (.error id cause)) ↔
      (block (apply depth) scope program store).1 = .error (.failed cause) := by
  rw [← catchReturn_failed_iff, program_eq]
  constructor
  · rintro ⟨id, gives⟩
    have kept := Discipline.ordinary.kept_run depth scope (.program program) free
    have tells := tells_of_toObject? gives
    generalize ended : (catchReturn (block (apply depth) scope program) store).1 = outcome at tells
    cases tells with
    | value =>
      have ordinary := kept.good _ ended
      contradiction
    | failed => rfl
  · intro failed
    exact ⟨_, toObject?_of_failed failed⟩

end Eval

theorem evaluate_error_iff (depth : Nat) (program : Program) (text : String) :
    evaluate depth program = .error (.evaluation text) ↔
      ∃ cause : EvalError, text = "ERROR: " ++ cause.message ∧
        (Eval.block (Eval.apply depth) 0 program .initial).1 = .error (.failed cause) := by
  have opened : Store.empty.openScope none = (0, .initial) := rfl
  simp only [← Eval.program_error_iff Store.signalFree_initial]
  unfold evaluate
  rw [opened]
  dsimp only
  generalize (Eval.program depth 0 program .initial).1 = result
  constructor
  · intro fails
    split at fails
    · cases fails
    · next id cause =>
      cases fails
      exact ⟨cause, rfl, id, rfl⟩
    · cases fails
  · rintro ⟨cause, rfl, id, rfl⟩
    rfl

/-- If no name is bound to a signal, none ever is. A program gives no object on its way out of a
function, and an error object when an error was raised, and only then. Its parts give an ordinary
value, an error or an ordinary value that was returned. So a run of a source that reads as a program
fails with the text of an error when evaluation raised that error, and only then. -/
theorem signals_are_never_bound (depth : Nat) :
    (∀ store : Store, store.SignalFree → ∀ scope,
      (∀ node, (Eval.node depth scope node store).2.SignalFree ∧
        ∀ object, (Eval.node depth scope node store).1 = some object → Eval.Admissible object) ∧
      ∀ program,
        (∀ id inner, (Eval.program depth scope program store).1 ≠ some (.returnValue id inner)) ∧
        ∀ cause, (∃ id, (Eval.program depth scope program store).1 = some (.error id cause)) ↔
          (Eval.block (Eval.apply depth) scope program store).1 = .error (.failed cause)) ∧
    ∀ source program text, parse source = .ok program →
      (execute depth source .eval = .error (.evaluation text) ↔
        ∃ cause : EvalError, text = "ERROR: " ++ cause.message ∧
          (Eval.block (Eval.apply depth) 0 program .initial).1 = .error (.failed cause)) := by
  constructor
  · intro store free scope
    refine ⟨?_, ?_⟩
    · intro node
      have kept := Discipline.ordinary.kept_run depth scope node free
      refine ⟨(Discipline.ordinary.kept_node depth scope node free).1, ?_⟩
      intro object gives
      rw [Eval.node_eq] at gives
      exact Eval.admissible_of_kept kept gives
    · intro program
      refine ⟨?_, Eval.program_error_iff free program⟩
      intro id inner gives
      rcases Eval.program_admissible free program gives with ordinary | ⟨_, _, same⟩
      · contradiction
      · contradiction
  · intro source program text parsed
    have runs : execute depth source .eval = evaluate depth program := by
      rw [execute, parsed]
    rw [runs]
    exact evaluate_error_iff depth program text

/-- The sum `1 + if (true) { return 2 }` is cut short, and its program gives the number 2. -/
def cutShort : Program :=
  [.exprStmt (.binary .plus (.int 1) (.cond (.bool true) [.returnStmt (.int 2)] none))]

theorem cutShort_gives_ordinary_value :
    Store.initial.SignalFree ∧ (Eval.node 0 0 (.program cutShort) .initial).2.SignalFree ∧
      (Eval.program 0 0 cutShort .initial).1 ≠ some (.returnValue 5 (.integer 4 2)) ∧
      parse "-true" = .ok [.exprStmt (.unary .minus (.bool true))] ∧
      execute 0 "-true" .eval = .error (.evaluation "ERROR: unknown operator: -BOOLEAN") := by
  have free := Store.signalFree_initial
  have parsed : parse "-true" = .ok [.exprStmt (.unary .minus (.bool true))] :=
    Parse.parse_eq_ok_iff_reading.2 (by decide +kernel)
  obtain ⟨evaluation, runs⟩ := signals_are_never_bound 0
  obtain ⟨nodes, programs⟩ := evaluation .initial free 0
  refine ⟨free, (nodes (.program cutShort)).1, (programs cutShort).1 _ _, parsed, ?_⟩
  exact (runs _ _ _ parsed).2 ⟨.unknownUnary .boolean .minus, rfl, rfl⟩

end Monkey
