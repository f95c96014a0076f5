import Monkey.Proofs.Eval.Signals
import Monkey.Proofs.Eval.Validity

/-!
Wholesome scopes. All that can be come by from such a scope exists, and no name there is bound to a
signal, whatever other scopes of the store may bind. Evaluation in a wholesome scope gives ordinary
values and leaves the wholesome scopes wholesome.
-/
namespace Monkey

namespace Store

/-- All scopes that can be come by from this one exist, and bind names to ordinary values only. -/
def Wholesome (store : Store) (scope : ScopeId) : Prop :=
  ∀ id, store.Reaches [scope] [] id → ∃ here, store.scopes[id]? = some here ∧
    ∀ name value, here.find? name = some value → value.isSignal = false

variable {store : Store} {scope : ScopeId}

theorem wholesome_of_closed (keep : ScopeId → Prop)
    (closed : ∀ id, keep id → ∃ here, store.scopes[id]? = some here ∧
      (∀ next, here.Refers next → keep next) ∧
      ∀ name value, here.find? name = some value → value.isSignal = false)
    (kept : keep scope) : store.Wholesome scope := by
  intro id reaches
  have inside : keep id := by
    induction reaches with
    | scope start => rwa [List.mem_singleton.1 start]
    | object start captures => cases start
    | step reaches found refers ih =>
      obtain ⟨here, found', refersInside, -⟩ := closed _ ih
      rw [found, Option.some.injEq] at found'
      exact refersInside _ (found' ▸ refers)
  obtain ⟨here, found, -, ordinary⟩ := closed id inside
  exact ⟨here, found, ordinary⟩

theorem Valid.wholesome (valid : store.Valid) (free : store.SignalFree)
    (known : scope < store.scopes.size) : store.Wholesome scope := by
  intro id reaches
  have inside := valid.lt_of_reaches (List.forall_mem_singleton.2 known) (by simp) reaches
  have found := Array.getElem?_eq_getElem inside
  exact ⟨_, found, fun name value bound => free value ⟨id, _, name, found, bound⟩⟩

theorem Wholesome.opens (wholesome : store.Wholesome scope) :
    ∃ here, store.scopes[scope]? = some here ∧ (∀ next, here.Refers next → store.Wholesome next) ∧
      ∀ name value, here.find? name = some value → value.isSignal = false := by
  have start : store.Reaches [scope] [] scope := .scope (List.mem_singleton.2 rfl)
  obtain ⟨here, found, ordinary⟩ := wholesome scope start
  refine ⟨here, found, ?_, ordinary⟩
  intro next refers id reaches
  apply wholesome id
  induction reaches with
  | scope member =>
    rw [List.mem_singleton.1 member]
    exact .step start found refers
  | object member captures => cases member
  | step _ found refers ih => exact .step ih found refers

theorem Wholesome.of_get? {name : String} {value : Object} (wholesome : store.Wholesome scope)
    (found : store.get? scope name = some value) :
    value.isSignal = false ∧ ∀ id, value.Captures id → store.Wholesome id := by
  induction scope using Nat.strongRecOn with
  | ind scope ih =>
    obtain ⟨here, place, refers, ordinary⟩ := wholesome.opens
    rw [get?_of_scope place] at found
    rcases Option.or_eq_some_iff.1 found with bound | ⟨-, around⟩
    · exact ⟨ordinary name value bound, fun id captures => refers id (.bound bound captures)⟩
    · obtain ⟨outer, lies, behind⟩ := Option.bind_eq_some_iff.1 around
      split at behind
      · next inner => exact ih outer inner (refers outer (.outer lies)) behind
      · contradiction

theorem Wholesome.congr {other : Store} (wholesome : store.Wholesome scope)
    (same : other.scopes = store.scopes) : other.Wholesome scope := by
  apply wholesome_of_closed store.Wholesome _ wholesome
  intro id inside
  rw [same]
  exact inside.opens

theorem Wholesome.set (wholesome : store.Wholesome scope) {value : Object}
    (ordinary : value.isSignal = false) (captured : ∀ id, value.Captures id → store.Wholesome id)
    (target : ScopeId) (name : String) : (store.set target name value).Wholesome scope := by
  apply wholesome_of_closed store.Wholesome _ wholesome
  intro id inside
  obtain ⟨here, found, refers, plain⟩ := inside.opens
  rw [scopes_set, found]
  by_cases same : target = id
  · refine ⟨here.bind name value, by rw [if_pos same]; rfl, ?_, ?_⟩
    · intro next leads
      cases leads with
      | outer lies => exact refers next (.outer lies)
      | @bound key content _ binds captures =>
        rw [Scope.find?_bind] at binds
        split at binds
        · cases binds
          exact captured next captures
        · exact refers next (.bound binds captures)
    · intro key content binds
      rw [Scope.find?_bind] at binds
      split at binds
      · cases binds
        exact ordinary
      · exact plain key content binds
  · exact ⟨here, if_neg same, refers, plain⟩

theorem Wholesome.openScope (wholesome : store.Wholesome scope) (outer : Option ScopeId) :
    (store.openScope outer).2.Wholesome scope := by
  apply wholesome_of_closed store.Wholesome _ wholesome
  intro id inside
  obtain ⟨here, found, refers, plain⟩ := inside.opens
  have older : id ≠ store.scopes.size := Nat.ne_of_lt (Array.getElem?_eq_some_iff.1 found).1
  rw [scopes_openScope, if_neg older]
  exact ⟨here, found, refers, plain⟩

theorem Wholesome.opened (wholesome : store.Wholesome scope) :
    (store.openScope (some scope)).2.Wholesome store.scopes.size := by
  apply wholesome_of_closed
    (fun id => id = store.scopes.size ∨ (store.openScope (some scope)).2.Wholesome id) _ (.inl rfl)
  rintro id (rfl | inside)
  · refine ⟨⟨[], some scope⟩, by rw [scopes_openScope, if_pos rfl], ?_, ?_⟩
    · intro next refers
      cases refers with
      | outer lies =>
        cases lies
        exact .inr (wholesome.openScope (some scope))
      | bound binds captures => cases binds
    · intro name value binds
      cases binds
  · obtain ⟨here, found, refers, plain⟩ := inside.opens
    exact ⟨here, found, fun next leads => .inr (refers next leads), plain⟩

end Store

def Discipline.wholesome : Discipline where
  Holds scope store := store.Wholesome scope
  Changes _ before after := ∀ id, before.Wholesome id → after.Wholesome id
  Fits store value := value.isSignal = false ∧ ∀ id, value.Captures id → store.Wholesome id
  unchanged _ _ _ wholesome := wholesome
  changes_trans first second id wholesome := second id (first id wholesome)
  fits_later changes fits := ⟨fits.1, fun id captures => changes id (fits.2 id captures)⟩
  counted holds := ⟨holds.congr rfl, fun _ wholesome => wholesome.congr rfl⟩
  integer _ _ := ⟨rfl, fun _ captures => by cases captures⟩
  string _ _ := ⟨rfl, fun _ captures => by cases captures⟩
  function holds _ _ := by
    refine ⟨rfl, ?_⟩
    intro id captures
    cases captures
    exact holds.congr rfl
  null _ := ⟨rfl, fun _ captures => by cases captures⟩
  boolean _ value := by
    cases value with
    | true => exact ⟨rfl, fun _ captures => by cases captures⟩
    | false => exact ⟨rfl, fun _ captures => by cases captures⟩
  found holds found := holds.of_get? found
  bound holds fits name :=
    ⟨holds.set fits.1 fits.2 _ name, fun _ wholesome => wholesome.set fits.1 fits.2 _ name⟩
  entered _ fits := (fits.2 _ (.function _ _)).opened
  left holds _ changes :=
    ⟨changes _ (holds.openScope _), fun id wholesome => changes id (wholesome.openScope _)⟩

end Monkey
