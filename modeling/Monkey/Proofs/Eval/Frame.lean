import Monkey.Proofs.Eval.Discipline
import Monkey.Proofs.Eval.Trace

/-!
What evaluation may write to. Names are bound in the scope at hand only, and every call opens a
scope of its own, so all other scopes stay as they were, those that called functions were made in
included.
-/
namespace Monkey

theorem Scope.names_subset_bind (scope : Scope) (name : String) (value : Object) :
    scope.names ⊆ (scope.bind name value).names := by
  intro other member
  obtain ⟨pair, here, rfl⟩ := List.mem_map.1 member
  by_cases same : pair.1 = name
  · exact List.mem_cons.2 (.inl same)
  · apply List.mem_cons_of_mem
    exact List.mem_map_of_mem (List.mem_filter.2 ⟨here, by simpa using same⟩)

namespace Store

/-- The scopes there were, other than this one, are what they were. This one lies where it lay and
binds all the names that it bound. -/
structure WritesOnly (scope : ScopeId) (before after : Store) : Prop where
  others : ∀ id, id < before.scopes.size → id ≠ scope → after.scopes[id]? = before.scopes[id]?
  own : ∀ here, before.scopes[scope]? = some here → ∃ later, after.scopes[scope]? = some later ∧
    later.outer = here.outer ∧ here.names ⊆ later.names
  grows : before.scopes.size ≤ after.scopes.size

def KeptIn (before after : Store) : Prop :=
  ∀ id, id < before.scopes.size → after.scopes[id]? = before.scopes[id]?

variable {scope : ScopeId} {before middle after : Store}

theorem KeptIn.grows (kept : before.KeptIn after) : before.scopes.size ≤ after.scopes.size := by
  apply Nat.le_of_not_lt
  intro shorter
  have last := kept after.scopes.size shorter
  rw [Array.getElem?_eq_none (Nat.le_refl _), Array.getElem?_eq_getElem shorter] at last
  contradiction

theorem KeptIn.writesOnly (kept : before.KeptIn after) (scope : ScopeId) :
    WritesOnly scope before after where
  others id known _ := kept id known
  own here found := by
    have known := (Array.getElem?_eq_some_iff.1 found).1
    exact ⟨here, (kept scope known).trans found, rfl, List.Subset.refl _⟩
  grows := kept.grows

theorem keptIn_openScope (store : Store) (outer : Option ScopeId) :
    store.KeptIn (store.openScope outer).2 := by
  intro id known
  rw [scopes_openScope, if_neg (Nat.ne_of_lt known)]

theorem writesOnly_counted (scope : ScopeId) (store : Store) (nextId : ObjectId) :
    WritesOnly scope store { store with nextId } := by
  apply KeptIn.writesOnly
  intro id known
  rfl

theorem WritesOnly.trans (first : WritesOnly scope before middle)
    (second : WritesOnly scope middle after) : WritesOnly scope before after where
  others id known other := by
    have later : id < middle.scopes.size := Nat.lt_of_lt_of_le known first.grows
    exact (second.others id later other).trans (first.others id known other)
  own here found := by
    obtain ⟨between, foundBetween, outer, names⟩ := first.own here found
    obtain ⟨later, foundLater, outer', names'⟩ := second.own between foundBetween
    exact ⟨later, foundLater, outer'.trans outer, List.Subset.trans names names'⟩
  grows := Nat.le_trans first.grows second.grows

theorem writesOnly_set (store : Store) (scope : ScopeId) (name : String) (value : Object) :
    WritesOnly scope store (store.set scope name value) where
  others id _ other := by rw [scopes_set, if_neg (Ne.symm other)]
  own here found := by
    refine ⟨here.bind name value, ?_, rfl, here.names_subset_bind name value⟩
    rw [scopes_set, if_pos rfl, found]
    rfl
  grows := by simp [set]

theorem WritesOnly.keptIn {outer : Option ScopeId}
    (inside : WritesOnly before.scopes.size (before.openScope outer).2 after) :
    before.KeptIn after := by
  intro id known
  have opened : id < (before.openScope outer).2.scopes.size := by simp [openScope]; omega
  rw [inside.others id opened (by omega)]
  exact before.keptIn_openScope outer id known

def initial : Store := (empty.openScope none).2

end Store

def Discipline.writing : Discipline where
  Holds _ _ := True
  Changes := Store.WritesOnly
  Fits _ _ := True
  unchanged scope store := Store.writesOnly_counted scope store store.nextId
  changes_trans := Store.WritesOnly.trans
  fits_later _ _ := trivial
  counted _ := ⟨trivial, Store.writesOnly_counted ..⟩
  integer _ _ := trivial
  string _ _ := trivial
  function _ _ _ := trivial
  null _ := trivial
  boolean _ _ := trivial
  found _ _ := trivial
  bound _ _ _ := ⟨trivial, Store.writesOnly_set ..⟩
  entered _ _ := trivial
  left _ _ inside := ⟨trivial, inside.keptIn.writesOnly _⟩

namespace Eval

theorem keptIn_apply (depth : Nat) (function : Function) (arguments : List Object)
    (store : Store) : store.KeptIn (apply depth function arguments store).2 := by
  intro id known
  -- seen from a scope that does not exist, all the others are other scopes
  have kept : Discipline.writing.Kept store.scopes.size store Discipline.writing.Fits
      (apply depth function arguments store) :=
    Discipline.writing.kept_apply depth trivial ⟨0, trivial⟩ fun _ _ => trivial
  exact kept.changes.others id known (Nat.ne_of_lt known)

theorem scope_of_bodiesOfCall {depth : Nat} {activation : Activation} {body : BodyRun}
    (member : body ∈ bodiesOfCall depth activation) :
    body.scope = body.activation.store.scopes.size := by
  induction depth generalizing activation with
  | zero => cases member
  | succ depth ih =>
    unfold bodiesOfCall at member
    split at member
    · cases member
    · next scope start enters =>
      rcases List.mem_cons.1 member with rfl | inner
      · unfold enter? at enters
        split at enters
        · contradiction
        · cases enters
          rfl
      · obtain ⟨call, _, inner⟩ := List.mem_flatMap.1 inner
        exact ih inner

/-- Evaluation writes to its own scope only. The bodies of the functions called on the way run in
scopes that did not exist before the call, and no scope that did is changed by the call. -/
theorem evaluation_writes_only_its_own_scope (depth : Nat) (scope : ScopeId) (node : Node)
    (store : Store) :
    store.WritesOnly scope (Eval.node depth scope node store).2 ∧
      ∀ body ∈ bodiesRun depth scope node store,
        body.activation.store.scopes[body.scope]? = none ∧
        body.activation.store.KeptIn
          (apply depth body.activation.function body.activation.arguments
            body.activation.store).2 := by
  constructor
  · exact (Discipline.writing.kept_node depth scope node trivial).2
  · intro body member
    obtain ⟨call, _, inner⟩ := List.mem_flatMap.1 member
    have scope := scope_of_bodiesOfCall inner
    exact ⟨Array.getElem?_eq_none (Nat.le_of_eq scope.symm), keptIn_apply _ _ _ _⟩

/-- The call `fn(x) { let y = x; }(true)`. -/
def bindingCall : Expr := .call (.fn ["x"] [.letStmt "y" (.ident "x")]) [.bool true]

theorem bindingCall_writes_to_new_scope :
    ∃ body ∈ bodiesRun 1 0 (.expression bindingCall) .initial,
      body.scope = 1 ∧ body.activation.store.scopes[body.scope]? = none ∧
      Store.initial.WritesOnly 0 (Eval.node 1 0 (.expression bindingCall) .initial).2 := by
  obtain ⟨writes, bodies⟩ :=
    evaluation_writes_only_its_own_scope 1 0 (.expression bindingCall) .initial
  have member : ∃ body ∈ bodiesRun 1 0 (.expression bindingCall) .initial, body.scope = 1 :=
    ⟨_, List.mem_cons_self, rfl⟩
  obtain ⟨body, run, scope⟩ := member
  exact ⟨body, run, scope, (bodies body run).1, writes⟩

end Eval

end Monkey
