import Mathlib.Logic.Relation
import Monkey.Proofs.Scope.Binding
import Monkey.Scope.Dump

/-!
Chains of scopes. From a scope one comes to the scope it lies in, and so on outwards. Where scopes
lie in older ones these ways have an end, and so what follows them, looking a name up and showing a
scope, comes to an end as well.
-/
namespace Monkey

def Scope.text (here : Scope) (around : String) : String :=
  "Environment \x7b names: [" ++ String.intercalate ", " (here.sortedNames.map Text.quoted) ++
    "], outer: " ++ around ++ " \x7d"

namespace Store

def LiesIn (store : Store) (inner outer : ScopeId) : Prop :=
  ∃ here, store.scopes[inner]? = some here ∧ here.outer = some outer

/-- Looking a name up in a scope comes to an end with this result: the name is bound there, or the
scope around it has the answer, or there is none around it. -/
inductive Gets (store : Store) (name : String) : ScopeId → Option Object → Prop
  | here {scope : ScopeId} {here : Scope} {value : Object}
    (found : store.scopes[scope]? = some here) (bound : here.find? name = some value) :
    Gets store name scope (some value)
  | around {scope outer : ScopeId} {here : Scope} {result : Option Object}
    (found : store.scopes[scope]? = some here) (unbound : here.find? name = none)
    (lies : here.outer = some outer) (gets : Gets store name outer result) :
    Gets store name scope result
  | nowhere {scope : ScopeId} {here : Scope} (found : store.scopes[scope]? = some here)
    (unbound : here.find? name = none) (outermost : here.outer = none) : Gets store name scope none

inductive Shows (store : Store) : ScopeId → String → Prop
  | outermost {scope : ScopeId} {here : Scope} (found : store.scopes[scope]? = some here)
    (outermost : here.outer = none) : Shows store scope (here.text "None")
  | inside {scope outer : ScopeId} {here : Scope} {text : String}
    (found : store.scopes[scope]? = some here) (lies : here.outer = some outer)
    (shows : Shows store outer text) : Shows store scope (here.text ("Some(" ++ text ++ ")"))

inductive Chain (store : Store) : ScopeId → List ScopeId → Prop
  | outermost {scope : ScopeId} {here : Scope} (found : store.scopes[scope]? = some here)
    (outermost : here.outer = none) : Chain store scope [scope]
  | inside {scope outer : ScopeId} {here : Scope} {chain : List ScopeId}
    (found : store.scopes[scope]? = some here) (lies : here.outer = some outer)
    (around : Chain store outer chain) : Chain store scope (scope :: chain)

def Nested (store : Store) : Prop := ∀ {inner outer}, store.LiesIn inner outer → outer < inner

variable {store : Store} {scope : ScopeId} {chain : List ScopeId}

theorem liesIn_of_openScope {outer : Option ScopeId} {inner around : ScopeId}
    (lies : (store.openScope outer).2.LiesIn inner around) :
    store.LiesIn inner around ∨ inner = store.scopes.size ∧ outer = some around := by
  obtain ⟨here, found, lies⟩ := lies
  rw [scopes_openScope] at found
  split at found
  · next newest =>
    cases found
    exact .inr ⟨newest, lies⟩
  · exact .inl ⟨here, found, lies⟩

theorem liesIn_of_set {scope : ScopeId} {name : String} {value : Object} {inner around : ScopeId}
    (lies : (store.set scope name value).LiesIn inner around) : store.LiesIn inner around := by
  obtain ⟨here, found, lies⟩ := lies
  rw [scopes_set] at found
  split at found
  · obtain ⟨before, was, rfl⟩ := Option.map_eq_some_iff.1 found
    exact ⟨before, was, lies⟩
  · exact ⟨here, found, lies⟩

theorem Nested.lt_of_transGen (nested : store.Nested) {inner outer : ScopeId}
    (lies : Relation.TransGen store.LiesIn inner outer) : outer < inner := by
  induction lies with
  | single lies => exact nested lies
  | tail _ lies ih => exact Nat.lt_trans (nested lies) ih

theorem Nested.acyclic (nested : store.Nested) (scope : ScopeId) :
    ¬ Relation.TransGen store.LiesIn scope scope :=
  fun around => Nat.lt_irrefl _ (nested.lt_of_transGen around)

theorem Nested.get?_eq (nested : store.Nested) {here : Scope}
    (found : store.scopes[scope]? = some here) (name : String) :
    store.get? scope name = (here.find? name).or (here.outer.bind (store.get? · name)) := by
  rw [get?_of_scope found]
  cases lies : here.outer with
  | none => rfl
  | some outer =>
    have older := nested ⟨here, found, lies⟩
    simp only [Option.bind_some, if_pos older]

/-- The guard of the lookup, that the outer scope is older, is never in the way. -/
theorem Nested.gets (nested : store.Nested) (known : scope < store.scopes.size) (name : String) :
    store.Gets name scope (store.get? scope name) := by
  induction scope using Nat.strongRecOn with
  | ind scope ih =>
    have found := Array.getElem?_eq_getElem known
    generalize store.scopes[scope] = here at found
    rw [nested.get?_eq found]
    cases bound : here.find? name with
    | some value => exact .here found bound
    | none =>
      cases lies : here.outer with
      | none => exact .nowhere found bound lies
      | some outer =>
        have older := nested ⟨here, found, lies⟩
        exact .around found bound lies (ih outer older (Nat.lt_trans older known))

theorem Nested.shows (nested : store.Nested) (known : scope < store.scopes.size) :
    store.Shows scope (store.dump scope) := by
  induction scope using Nat.strongRecOn with
  | ind scope ih =>
    have found := Array.getElem?_eq_getElem known
    generalize store.scopes[scope] = here at found
    rw [dump]
    simp only [found]
    cases lies : here.outer with
    | none => exact .outermost found lies
    | some outer =>
      have older := nested ⟨here, found, lies⟩
      simp only [if_pos older]
      exact .inside found lies (ih outer older (Nat.lt_trans older known))

/-- A name is looked up along the chain, and the first scope there that binds it has the answer. -/
theorem Chain.get?_eq (nested : store.Nested) (holds : store.Chain scope chain) (name : String) :
    store.get? scope name = chain.findSome? fun id => store.scopes[id]?.bind (·.find? name) := by
  induction holds with
  | @outermost scope here found outermost =>
    rw [nested.get?_eq found, outermost]
    simp [found]
  | @inside scope outer here chain found lies _ ih =>
    rw [nested.get?_eq found, lies, List.findSome?_cons, found, Option.bind_some, Option.bind_some,
      ih]
    cases here.find? name <;> rfl

theorem Chain.eq_cons (holds : store.Chain scope chain) :
    ∃ around, chain = scope :: around := by
  cases holds with
  | outermost => exact ⟨[], rfl⟩
  | inside => exact ⟨_, rfl⟩

theorem Chain.later {later : Store} (holds : store.Chain scope chain)
    (kept : ∀ {id : ScopeId} {here : Scope}, store.scopes[id]? = some here →
      ∃ after : Scope, later.scopes[id]? = some after ∧ after.outer = here.outer) :
    later.Chain scope chain := by
  induction holds with
  | outermost found outermost =>
    obtain ⟨after, found, same⟩ := kept found
    exact .outermost found (same.trans outermost)
  | inside found lies _ ih =>
    obtain ⟨after, found, same⟩ := kept found
    exact .inside found (same.trans lies) ih

theorem Chain.openScope (holds : store.Chain scope chain) (outer : Option ScopeId) :
    (store.openScope outer).2.Chain scope chain := by
  apply holds.later
  intro id here found
  have older : id ≠ store.scopes.size := Nat.ne_of_lt (Array.getElem?_eq_some_iff.1 found).1
  exact ⟨here, by rw [scopes_openScope, if_neg older, found], rfl⟩

theorem Chain.set (holds : store.Chain scope chain) (target : ScopeId) (name : String)
    (value : Object) : (store.set target name value).Chain scope chain := by
  apply holds.later
  intro id here found
  rw [scopes_set, found]
  split
  · exact ⟨_, rfl, rfl⟩
  · exact ⟨_, rfl, rfl⟩

theorem Chain.opened (holds : store.Chain scope chain) :
    (store.openScope (some scope)).2.Chain store.scopes.size (store.scopes.size :: chain) :=
  .inside (by rw [scopes_openScope, if_pos rfl]) rfl (holds.openScope _)

end Store

end Monkey
