import Monkey.Proofs.Eval.Frame
import Monkey.Proofs.Scope.Binding

/-!
What names stand for where the body of a function begins. Parameters are bound to arguments one
after the other, so of parameters with the same name the last one counts. Whatever is no parameter
is looked up from the scope that the function was made in. No scope that there was is changed.
-/
namespace Monkey

structure LastAt (names : List String) (name : String) (i : Nat) : Prop where
  here : names[i]? = some name
  last : ∀ j, i < j → names[j]? ≠ some name

section LastAt

variable {names : List String} {first name : String} {i : Nat}

theorem LastAt.of_zero (last : LastAt (first :: names) name 0) : first = name ∧ name ∉ names := by
  refine ⟨Option.some.inj last.here, ?_⟩
  intro member
  obtain ⟨j, again⟩ := List.mem_iff_getElem?.1 member
  exact last.last (j + 1) (Nat.succ_pos j) again

theorem LastAt.of_succ (last : LastAt (first :: names) name (i + 1)) : LastAt names name i where
  here := last.here
  last j behind := last.last (j + 1) (Nat.succ_lt_succ behind)

end LastAt

namespace Store

/-- What is found from a scope that was there before depends on such scopes only. -/
theorem KeptIn.get?_eq {before after : Store} (kept : before.KeptIn after) {scope : ScopeId}
    (known : scope < before.scopes.size) (name : String) :
    after.get? scope name = before.get? scope name := by
  induction scope using Nat.strongRecOn with
  | ind scope ih =>
    have found := Array.getElem?_eq_getElem known
    generalize before.scopes[scope] = here at found
    rw [get?_of_scope found, get?_of_scope ((kept scope known).trans found)]
    cases here.outer with
    | none => rfl
    | some outer =>
      by_cases older : outer < scope
      · simp only [Option.bind_some, older, if_true, ih outer older (Nat.lt_trans older known)]
      · simp only [Option.bind_some, older, if_false]

end Store

namespace Eval

variable {scope : ScopeId} {names : List String} {name : String}

theorem writesOnly_bindAll (scope : ScopeId) (pairs : List (String × Object)) (store : Store) :
    Store.WritesOnly scope store (bindAll scope pairs store).2 := by
  induction pairs generalizing store with
  | nil => exact Store.writesOnly_counted scope store store.nextId
  | cons first rest ih => exact (store.writesOnly_set scope first.1 first.2).trans (ih _)

theorem nextId_bindAll (scope : ScopeId) (pairs : List (String × Object)) (store : Store) :
    (bindAll scope pairs store).2.nextId = store.nextId := by
  induction pairs generalizing store with
  | nil => rfl
  | cons first rest ih => exact ih _

theorem find?_bindAll_of_notMem {store : Store} (there : scope < store.scopes.size)
    (values : List Object) (absent : name ∉ names) :
    (bindAll scope (names.zip values) store).2.scopes[scope]?.bind (·.find? name) =
      store.scopes[scope]?.bind (·.find? name) := by
  induction names generalizing values store with
  | nil => rfl
  | cons first names ih =>
    obtain ⟨other, others⟩ := not_or.1 (mt List.mem_cons.2 absent)
    cases values with
    | nil => rfl
    | cons value values =>
      have later : scope < (store.set scope first value).scopes.size := by
        rwa [Store.size_set]
      have unbound := ih later values others
      rw [Store.bind_find?_set there, if_neg fun both => other both.2.symm] at unbound
      exact unbound

theorem find?_bindAll_of_lastAt {store : Store} (there : scope < store.scopes.size)
    {values : List Object} {i : Nat} {value : Object} (last : LastAt names name i)
    (given : values[i]? = some value) :
    (bindAll scope (names.zip values) store).2.scopes[scope]?.bind (·.find? name) = some value := by
  induction names generalizing values store i with
  | nil => exact absurd last.here (by simp)
  | cons first names ih =>
    cases values with
    | nil => contradiction
    | cons initial values =>
      have later : scope < (store.set scope first initial).scopes.size := by
        rwa [Store.size_set]
      cases i with
      | zero =>
        obtain ⟨rfl, others⟩ := last.of_zero
        cases given
        have kept := find?_bindAll_of_notMem later values others
        rw [Store.bind_find?_set there, if_pos ⟨rfl, rfl⟩] at kept
        exact kept
      | succ i => exact ih later last.of_succ given

variable {store : Store} {function : Function} {arguments : List Object}

/-- Where there are as many arguments as parameters, the body of the function is run in a scope that
did not exist. There a parameter stands for the argument at the last position that has its name, and
any other name for what it stands for in the scope that the function was made in. That scope and all
others are what they were before. -/
theorem parameters_bind_names (known : function.scope < store.scopes.size)
    (same : function.parameters.length = arguments.length) :
    ∃ scope start, enter? function arguments store = some (scope, start) ∧
      (∀ depth, apply (depth + 1) function arguments store =
        catchReturn (block (apply depth) scope function.body) start) ∧
      store.scopes[scope]? = none ∧
      (∀ name i, LastAt function.parameters name i →
        ∃ value, arguments[i]? = some value ∧ start.get? scope name = some value) ∧
      (∀ name, name ∉ function.parameters →
        start.get? scope name = store.get? function.scope name) ∧
      store.KeptIn start ∧ start.nextId = store.nextId := by
  let opened := (store.openScope (some function.scope)).2
  let start := (bindAll store.scopes.size (function.parameters.zip arguments) opened).2
  have entered : enter? function arguments store = some (store.scopes.size, start) := by
    rw [enter?, if_neg (not_not_intro same)]
    rfl
  have there : store.scopes.size < opened.scopes.size := by
    rw [Store.size_openScope]
    exact Nat.lt_succ_self _
  have writes : Store.WritesOnly store.scopes.size opened start := writesOnly_bindAll _ _ _
  have kept : store.KeptIn start := writes.keptIn
  -- the new scope lies in that of the function, and is looked up first
  obtain ⟨here, found, lies, -⟩ :=
    writes.own ⟨[], some function.scope⟩ (by rw [Store.scopes_openScope, if_pos rfl])
  have looked (name : String) : start.get? store.scopes.size name =
      (start.scopes[store.scopes.size]?.bind (·.find? name)).or
        (store.get? function.scope name) := by
    rw [Store.get?_of_scope found, lies, Option.bind_some, if_pos known, kept.get?_eq known, found,
      Option.bind_some]
  refine ⟨store.scopes.size, start, entered, ?_, ?_, ?_, ?_, kept, ?_⟩
  · intro depth
    rw [apply_succ, entered]
  · exact Array.getElem?_eq_none (Nat.le_refl _)
  · intro name i last
    have inside : i < arguments.length := same ▸ (List.getElem?_eq_some_iff.1 last.here).1
    have given := List.getElem?_eq_getElem inside
    refine ⟨arguments[i], given, ?_⟩
    rw [looked, find?_bindAll_of_lastAt there last given, Option.some_or]
  · intro name absent
    rw [looked, find?_bindAll_of_notMem there arguments absent, Store.bind_find?_openScope,
      Array.getElem?_eq_none (Nat.le_refl _), Option.bind_none, Option.none_or]
  · exact nextId_bindAll _ _ _

def twoScopes : Store :=
  ⟨#[⟨[("y", .ofBool true), ("z", .ofBool true)], none⟩, ⟨[("y", .theNull)], some 0⟩], 3⟩

/-- The function `fn(x, y, x) { }`, made in the inner one of two scopes. -/
def doubled : Function := ⟨["x", "y", "x"], [], 1⟩

theorem doubled_binds_last :
    ∃ scope start,
      enter? doubled [.theNull, .ofBool false, .ofBool true] twoScopes = some (scope, start) ∧
      start.get? scope "x" = some (.ofBool true) ∧ start.get? scope "y" = some (.ofBool false) ∧
      start.get? scope "z" = some (.ofBool true) ∧
      start.scopes[1]? = some ⟨[("y", .theNull)], some 0⟩ := by
  have lastX : LastAt doubled.parameters "x" 2 := by
    refine ⟨rfl, ?_⟩
    intro j behind
    rw [List.getElem?_eq_none (show doubled.parameters.length ≤ j from behind)]
    simp
  have lastY : LastAt doubled.parameters "y" 1 := by
    refine ⟨rfl, ?_⟩
    intro j behind
    rcases Nat.eq_or_lt_of_le behind with rfl | further
    · decide
    · rw [List.getElem?_eq_none (show doubled.parameters.length ≤ j from further)]
      simp
  have known : doubled.scope < twoScopes.scopes.size := by decide
  let given : List Object := [.theNull, .ofBool false, .ofBool true]
  have same : doubled.parameters.length = given.length := rfl
  obtain ⟨scope, start, entered, -, -, parameters, others, kept, -⟩ :=
    parameters_bind_names known same
  obtain ⟨x, atX, foundX⟩ := parameters "x" 2 lastX
  obtain ⟨y, atY, foundY⟩ := parameters "y" 1 lastY
  cases atX
  cases atY
  have outside : twoScopes.get? 1 "z" = some (.ofBool true) := by decide +kernel
  have foundZ := (others "z" (by decide)).trans outside
  exact ⟨scope, start, entered, foundX, foundY, foundZ, kept 1 (by decide)⟩

end Eval

end Monkey
