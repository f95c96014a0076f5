import Monkey.Proofs.Eval.Discipline
import Monkey.Proofs.Scope.Chain
import Monkey.Proofs.Scope.Reach

/-!
Linked stores. Whatever scope is spoken of in such a store is there: the scopes that others lie in,
which are older ones, and those that bound functions were made in. Opening scopes, binding and
evaluating keep a store linked, so that closures never tie the scopes around a scope into a ring.
-/
namespace Monkey

def Object.FitsIn (value : Object) (store : Store) : Prop :=
  ∀ scope, value.Captures scope → scope < store.scopes.size

theorem Object.FitsIn.later {value : Object} {store later : Store} (fits : value.FitsIn store)
    (grows : store.scopes.size ≤ later.scopes.size) : value.FitsIn later :=
  fun scope captures => Nat.lt_of_lt_of_le (fits scope captures) grows

namespace Store

structure Linked (store : Store) : Prop where
  nested : store.Nested
  bound : ∀ value, store.Binds value → value.FitsIn store

variable {store : Store}

theorem linked_empty : empty.Linked where
  nested lies := by
    obtain ⟨here, found, -⟩ := lies
    simp [empty] at found
  bound value binds := absurd binds (not_binds_empty value)

theorem Linked.openScope (linked : store.Linked) {outer : Option ScopeId}
    (known : ∀ around, outer = some around → around < store.scopes.size) :
    (store.openScope outer).2.Linked where
  nested lies := by
    rcases liesIn_of_openScope lies with before | ⟨rfl, same⟩
    · exact linked.nested before
    · exact known _ same
  bound value binds := by
    apply (linked.bound value (binds_of_openScope binds)).later
    rw [size_openScope]
    exact Nat.le_succ _

theorem Linked.set (linked : store.Linked) {value : Object} (fits : value.FitsIn store)
    (scope : ScopeId) (name : String) : (store.set scope name value).Linked where
  nested lies := linked.nested (liesIn_of_set lies)
  bound other binds := by
    have same := Nat.le_of_eq (store.size_set scope name value).symm
    rcases binds_of_set binds with rfl | before
    · exact fits.later same
    · exact (linked.bound other before).later same

end Store

def Discipline.linked : Discipline where
  Holds scope store := store.Linked ∧ scope < store.scopes.size
  Changes _ before after := before.scopes.size ≤ after.scopes.size
  Fits store value := value.FitsIn store
  unchanged _ _ := Nat.le_refl _
  changes_trans := Nat.le_trans
  fits_later grows fits := fits.later grows
  counted holds := ⟨⟨⟨holds.1.nested, holds.1.bound⟩, holds.2⟩, Nat.le_refl _⟩
  integer _ _ _ captures := by cases captures
  string _ _ _ captures := by cases captures
  function holds _ _ _ captures := by
    cases captures
    exact holds.2
  null _ _ captures := by cases captures
  boolean _ value := by
    cases value with
    | true =>
      intro _ captures
      cases captures
    | false =>
      intro _ captures
      cases captures
  found holds found := holds.1.bound _ (Store.binds_of_get? found)
  bound {scope store value} holds fits name := by
    have same := (store.size_set scope name value).symm
    exact ⟨⟨holds.1.set fits scope name, same ▸ holds.2⟩, Nat.le_of_eq same⟩
  entered {scope store id function} holds fits := by
    refine ⟨holds.1.openScope ?_, ?_⟩
    · rintro around same
      cases same
      exact fits _ (.function id function)
    · rw [Store.size_openScope]
      exact Nat.lt_succ_self _
  left {scope store outer later} holds inside changes := by
    rw [Store.size_openScope] at changes
    exact ⟨⟨inside.1, Nat.lt_trans holds.2 changes⟩, Nat.le_of_succ_le changes⟩

end Monkey
