import Monkey.Object.Basic

/-!
Scopes and the store that holds them. A scope binds names to objects and may lie in another scope,
which is always older. Names are looked up outwards and bound in the scope at hand.
-/
namespace Monkey

structure Scope where
  bindings : List (String × Object)
  outer : Option ScopeId
  deriving DecidableEq

namespace Scope

def find? (scope : Scope) (name : String) : Option Object := scope.bindings.lookup name

def bind (scope : Scope) (name : String) (value : Object) : Scope :=
  { scope with bindings := (name, value) :: scope.bindings.filter (·.1 ≠ name) }

theorem find?_bind (scope : Scope) (name other : String) (value : Object) :
    (scope.bind name value).find? other =
      if other = name then some value else scope.find? other := by
  by_cases same : other = name
  · simp [find?, bind, same]
  · simp only [find?, bind, List.lookup_cons, beq_eq_false_iff_ne.2 same, if_neg same]
    induction scope.bindings with
    | nil => rfl
    | cons first rest ih =>
      obtain ⟨bound, content⟩ := first
      by_cases dropped : bound = name
      · subst dropped
        rw [List.filter_cons_of_neg (by simp), List.lookup_cons, beq_eq_false_iff_ne.2 same]
        exact ih
      · rw [List.filter_cons_of_pos (by simpa using dropped), List.lookup_cons, List.lookup_cons,
          ih]

def names (scope : Scope) : List String := scope.bindings.map Prod.fst

end Scope

structure Store where
  scopes : Array Scope
  nextId : ObjectId
  deriving DecidableEq

namespace Store

def empty : Store := ⟨#[], Object.firstFreeId⟩

def create (store : Store) (object : ObjectId → Object) : Object × Store :=
  (object store.nextId, { store with nextId := store.nextId + 1 })

def openScope (store : Store) (outer : Option ScopeId) : ScopeId × Store :=
  (store.scopes.size, { store with scopes := store.scopes.push ⟨[], outer⟩ })

def set (store : Store) (scope : ScopeId) (name : String) (value : Object) : Store :=
  { store with scopes := store.scopes.modify scope (·.bind name value) }

def get? (store : Store) (scope : ScopeId) (name : String) : Option Object :=
  match store.scopes[scope]? with
  | none => none
  | some here =>
    match here.find? name, here.outer with
    | some value, _ => some value
    | none, none => none
    | none, some outer => if outer < scope then store.get? outer name else none
termination_by scope

theorem scopes_openScope (store : Store) (outer : Option ScopeId) (id : ScopeId) :
    (store.openScope outer).2.scopes[id]? =
      if id = store.scopes.size then some ⟨[], outer⟩ else store.scopes[id]? := by
  simp only [openScope, Array.getElem?_push]

theorem scopes_set (store : Store) (scope id : ScopeId) (name : String) (value : Object) :
    (store.set scope name value).scopes[id]? =
      if scope = id then store.scopes[id]?.map (·.bind name value) else store.scopes[id]? := by
  simp only [set, Array.getElem?_modify]

end Store

end Monkey
