import Monkey.Scope.Store

/-!
Which objects a store binds. Looking a name up gives an object that is bound somewhere, binding
adds the object bound at most, and opening a scope adds none.
-/
namespace Monkey.Store

def Binds (store : Store) (value : Object) : Prop :=
  ∃ (id : ScopeId) (here : Scope) (name : String),
    store.scopes[id]? = some here ∧ here.find? name = some value

theorem get?_of_scope {store : Store} {scope : ScopeId} {here : Scope}
    (found : store.scopes[scope]? = some here) (name : String) :
    store.get? scope name =
      (here.find? name).or
        (here.outer.bind fun outer => if outer < scope then store.get? outer name else none) := by
  rw [get?]
  simp only [found]
  cases here.find? name <;> cases here.outer <;> rfl

theorem get?_of_no_scope {store : Store} {scope : ScopeId}
    (missing : store.scopes[scope]? = none) (name : String) : store.get? scope name = none := by
  rw [get?, missing]

theorem binds_of_get? {store : Store} {scope : ScopeId} {name : String} {value : Object}
    (found : store.get? scope name = some value) : store.Binds value := by
  induction scope using Nat.strongRecOn with
  | ind scope ih =>
    cases place : store.scopes[scope]? with
    | none =>
      rw [get?_of_no_scope place] at found
      contradiction
    | some here =>
      rw [get?_of_scope place] at found
      rcases Option.or_eq_some_iff.1 found with bound | ⟨-, around⟩
      · exact ⟨scope, here, name, place, bound⟩
      · obtain ⟨outer, -, behind⟩ := Option.bind_eq_some_iff.1 around
        split at behind
        · next inner => exact ih outer inner behind
        · contradiction

theorem size_openScope (store : Store) (outer : Option ScopeId) :
    (store.openScope outer).2.scopes.size = store.scopes.size + 1 := by
  simp [openScope]

theorem size_set (store : Store) (scope : ScopeId) (name : String) (value : Object) :
    (store.set scope name value).scopes.size = store.scopes.size := by
  simp [set]

theorem not_binds_empty (value : Object) : ¬ empty.Binds value := by
  rintro ⟨id, here, name, found, -⟩
  simp [empty] at found

theorem binds_of_openScope {store : Store} {outer : Option ScopeId} {value : Object}
    (binds : (store.openScope outer).2.Binds value) : store.Binds value := by
  obtain ⟨id, here, name, found, bound⟩ := binds
  rw [scopes_openScope] at found
  split at found
  · cases found
    contradiction
  · exact ⟨id, here, name, found, bound⟩

theorem binds_of_set {store : Store} {scope : ScopeId} {name : String} {value other : Object}
    (binds : (store.set scope name value).Binds other) : other = value ∨ store.Binds other := by
  obtain ⟨id, here, key, found, bound⟩ := binds
  rw [scopes_set] at found
  split at found
  · obtain ⟨before, was, rfl⟩ := Option.map_eq_some_iff.1 found
    rw [Scope.find?_bind] at bound
    split at bound
    · cases bound
      exact .inl rfl
    · exact .inr ⟨id, before, key, was, bound⟩
  · exact .inr ⟨id, here, key, found, bound⟩

theorem bind_find?_openScope (store : Store) (outer : Option ScopeId) (scope : ScopeId)
    (name : String) :
    (store.openScope outer).2.scopes[scope]?.bind (·.find? name) =
      store.scopes[scope]?.bind (·.find? name) := by
  rw [scopes_openScope]
  split
  · next newest =>
    subst newest
    simp [Scope.find?]
  · rfl

theorem bind_find?_set {store : Store} {scope : ScopeId} (there : scope < store.scopes.size)
    (name : String) (value : Object) (other : ScopeId) (key : String) :
    (store.set scope name value).scopes[other]?.bind (·.find? key) =
      if scope = other ∧ name = key then some value
      else store.scopes[other]?.bind (·.find? key) := by
  rw [scopes_set]
  by_cases same : scope = other
  · subst same
    have found := Array.getElem?_eq_getElem there
    simp only [found, if_true, true_and, Option.map_some, Option.bind_some, Scope.find?_bind,
      eq_comm]
  · simp only [same, false_and, if_false]

end Monkey.Store
