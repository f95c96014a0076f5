import Monkey.Proofs.Eval.Renaming
import Monkey.Proofs.Scope.Reach

/-!
Interchangeable stores. The order in which names were bound in a scope can be seen in the store, but
nowhere else: stores that answer alike are evaluated in to the same end, and answer alike from then
on. So names may be bound in any order.
-/
namespace Monkey

theorem rename_object_id (object : Object) : object.rename id = object := by
  induction object with
  | integer | boolean | string | null => rfl
  | returnValue i inner ih => rw [Object.rename, ih]
  | error i cause => rw [Object.rename, cause.rename_id]
  | function i f => simp [Object.rename, Function.rename, renameAll_id]

def Correspondence.same : Correspondence := .renamed Function.injective_id

theorem Correspondence.same_objects_iff {a b : Object} : same.Objects a b ↔ a = b := by
  rw [same, renamed_objects_iff, rename_object_id, eq_comm]

theorem Correspondence.eq_of_same {a b : Option Object} (related : Option.Rel same.Objects a b) :
    a = b := by
  cases related with
  | none => rfl
  | some objects => exact congrArg some (same_objects_iff.1 objects)

namespace Store

/-- The stores answer alike in every scope, and give out the same identities. -/
def Interchangeable (one other : Store) : Prop := Correspondence.same.Stores one other

variable {one other : Store}

theorem interchangeable_of_alike (next : one.nextId = other.nextId)
    (size : one.scopes.size = other.scopes.size)
    (alike : ∀ id : ScopeId, Option.Rel Scope.Alike one.scopes[id]? other.scopes[id]?) :
    one.Interchangeable other where
  scopes {i j} same := by
    cases same
    have cells := alike i
    generalize one.scopes[i]? = cell at cells
    generalize other.scopes[i]? = cell' at cells
    cases cells with
    | none => exact .none
    | @some a b alike =>
      refine .some ⟨?_, ?_⟩
      · rw [alike.outer]
        cases b.outer with
        | none => exact .none
        | some outer => exact .some rfl
      · intro name
        show Option.Rel _ (a.find? name) (b.find? name)
        rw [alike.find]
        cases b.find? name with
        | none => exact .none
        | some value => exact .some (Correspondence.same_objects_iff.2 rfl)
  next_scope k := congrArg (· + k) size
  next_object k := congrArg (· + k) next

namespace Interchangeable

theorem size_eq (same : one.Interchangeable other) : one.scopes.size = other.scopes.size :=
  same.next_scope 0

theorem get?_eq (same : one.Interchangeable other) (scope : ScopeId) (name : String) :
    one.get? scope name = other.get? scope name :=
  Correspondence.eq_of_same (same.get? (Eq.refl scope) name)

theorem set (same : one.Interchangeable other) (scope : ScopeId) (name : String) (value : Object) :
    (one.set scope name value).Interchangeable (other.set scope name value) :=
  Correspondence.Stores.set same (Eq.refl scope) name (Correspondence.same_objects_iff.2 rfl)

theorem openScope (same : one.Interchangeable other) (outer : Option ScopeId) :
    (one.openScope outer).2.Interchangeable (other.openScope outer).2 := by
  apply Correspondence.Stores.openScope same
  cases outer with
  | none => exact .none
  | some outer => exact .some rfl

theorem node (same : one.Interchangeable other) (depth : Nat) (scope : ScopeId) (node : Node) :
    (Eval.node depth scope node one).1 = (Eval.node depth scope node other).1 ∧
      (Eval.node depth scope node one).2.Interchangeable (Eval.node depth scope node other).2 := by
  obtain ⟨objects, stores⟩ :=
    Correspondence.node_corresponds Correspondence.same depth (Eq.refl scope) node same
  change Option.Rel _ _ (Eval.node depth scope (node.rename id) other).1 at objects
  change Correspondence.same.Stores _ (Eval.node depth scope (node.rename id) other).2 at stores
  rw [node.rename_id] at objects stores
  exact ⟨Correspondence.eq_of_same objects, stores⟩

end Interchangeable

theorem set_comm (store : Store) {scope scope' : ScopeId} {name name' : String}
    (value value' : Object) (apart : scope = scope' → name ≠ name') :
    ((store.set scope name value).set scope' name' value').Interchangeable
      ((store.set scope' name' value').set scope name value) := by
  refine interchangeable_of_alike rfl (by simp only [size_set]) ?_
  intro id
  simp only [scopes_set]
  cases store.scopes[id]? with
  | none => simp
  | some here =>
    by_cases first : scope = id
    · by_cases second : scope' = id
      · have differ := apart (first.trans second.symm)
        simp only [if_pos first, if_pos second, Option.map_some]
        refine .some ⟨rfl, ?_⟩
        intro key
        simp only [Scope.find?_bind]
        by_cases same : key = name
        · rw [if_pos same, if_pos same, if_neg (same ▸ differ)]
        · rw [if_neg same, if_neg same]
      · simp only [if_pos first, if_neg second, Option.map_some]
        exact .some (.refl _)
    · simp only [if_neg first]
      split
      · exact .some (.refl _)
      · exact .some (.refl _)

end Store

end Monkey
