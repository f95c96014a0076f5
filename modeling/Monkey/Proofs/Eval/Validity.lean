import Monkey.Proofs.Eval.Discipline
import Monkey.Proofs.Scope.Chain
import Monkey.Proofs.Scope.Reach

/-!
Valid stores. Identities are given out in order, so whatever is bound in a store has an identity
that was given out there, functions were made in scopes that exist, and a scope lies in an older one.
The empty store is valid, and opening scopes, binding and evaluating keep a store valid.
-/
namespace Monkey

def Object.Known (store : Store) : Object → Prop
  | .function id made => id < store.nextId ∧ made.scope < store.scopes.size
  | .returnValue id inner => id < store.nextId ∧ inner.Known store
  | .integer id _ => id < store.nextId
  | .boolean id _ => id < store.nextId
  | .string id _ => id < store.nextId
  | .null id => id < store.nextId
  | .error id _ => id < store.nextId

namespace Store

structure Grows (before after : Store) : Prop where
  scopes : before.scopes.size ≤ after.scopes.size
  objects : before.nextId ≤ after.nextId

theorem Grows.refl (store : Store) : store.Grows store := ⟨Nat.le_refl _, Nat.le_refl _⟩

theorem Grows.trans {first second third : Store} (grows : first.Grows second)
    (more : second.Grows third) : first.Grows third :=
  ⟨Nat.le_trans grows.scopes more.scopes, Nat.le_trans grows.objects more.objects⟩

theorem grows_counted (store : Store) :
    store.Grows { store with nextId := store.nextId + 1 } :=
  ⟨Nat.le_refl _, Nat.le_succ _⟩

theorem grows_openScope (store : Store) (outer : Option ScopeId) :
    store.Grows (store.openScope outer).2 :=
  ⟨by simp [openScope], Nat.le_refl _⟩

theorem grows_set (store : Store) (scope : ScopeId) (name : String) (value : Object) :
    store.Grows (store.set scope name value) :=
  ⟨by simp [set], Nat.le_refl _⟩

end Store

theorem Object.Known.later {before after : Store} (grows : before.Grows after) :
    ∀ {object : Object}, object.Known before → object.Known after
  | .function _ _, known =>
    ⟨Nat.lt_of_lt_of_le known.1 grows.objects, Nat.lt_of_lt_of_le known.2 grows.scopes⟩
  | .returnValue _ _, known =>
    ⟨Nat.lt_of_lt_of_le known.1 grows.objects, Known.later grows known.2⟩
  | .integer .., known => Nat.lt_of_lt_of_le known grows.objects
  | .boolean .., known => Nat.lt_of_lt_of_le known grows.objects
  | .string .., known => Nat.lt_of_lt_of_le known grows.objects
  | .null _, known => Nat.lt_of_lt_of_le known grows.objects
  | .error .., known => Nat.lt_of_lt_of_le known grows.objects

theorem Object.Known.lt_of_captures {store : Store} {value : Object} (known : value.Known store)
    {scope : ScopeId} (captures : value.Captures scope) : scope < store.scopes.size := by
  induction captures with
  | function id f => exact known.2
  | returnValue id _ ih => exact ih known.2

namespace Store

structure Valid (store : Store) : Prop where
  constants : Object.firstFreeId ≤ store.nextId
  outer : ∀ {id around : ScopeId} {here : Scope}, store.scopes[id]? = some here →
    here.outer = some around → around < id
  bound : ∀ {value : Object}, store.Binds value → value.Known store

variable {store : Store}

theorem valid_empty : empty.Valid where
  constants := Nat.le_refl _
  outer found := by simp [empty] at found
  bound binds := absurd binds (not_binds_empty _)

theorem Valid.counted (valid : store.Valid) : Valid { store with nextId := store.nextId + 1 } where
  constants := Nat.le_succ_of_le valid.constants
  outer := valid.outer
  bound binds := (valid.bound binds).later store.grows_counted

theorem Valid.openScope (valid : store.Valid) {outer : Option ScopeId}
    (known : ∀ around, outer = some around → around < store.scopes.size) :
    (store.openScope outer).2.Valid where
  constants := valid.constants
  outer found lies := by
    rcases liesIn_of_openScope ⟨_, found, lies⟩ with ⟨_, was, before⟩ | ⟨rfl, same⟩
    · exact valid.outer was before
    · exact known _ same
  bound binds := (valid.bound (binds_of_openScope binds)).later (store.grows_openScope outer)

theorem Valid.set (valid : store.Valid) {value : Object} (known : value.Known store)
    (scope : ScopeId) (name : String) : (store.set scope name value).Valid where
  constants := valid.constants
  outer found lies := by
    obtain ⟨_, was, before⟩ := liesIn_of_set ⟨_, found, lies⟩
    exact valid.outer was before
  bound binds := by
    have grows := store.grows_set scope name value
    rcases binds_of_set binds with rfl | before
    · exact known.later grows
    · exact (valid.bound before).later grows

theorem Valid.lt_of_reaches (valid : store.Valid) {scopes : List ScopeId} {objects : List Object}
    (known : ∀ id ∈ scopes, id < store.scopes.size)
    (given : ∀ value ∈ objects, value.Known store) {id : ScopeId}
    (reaches : store.Reaches scopes objects id) : id < store.scopes.size := by
  induction reaches with
  | scope start => exact known _ start
  | object start captures => exact (given _ start).lt_of_captures captures
  | step reaches found refers ih =>
    cases refers with
    | outer lies => exact Nat.lt_trans (valid.outer found lies) ih
    | bound binds captures =>
      exact (valid.bound ⟨_, _, _, found, binds⟩).lt_of_captures captures

end Store

def Discipline.validity : Discipline where
  Holds scope store := store.Valid ∧ scope < store.scopes.size
  Changes _ := Store.Grows
  Fits store value := value.Known store
  unchanged _ := Store.Grows.refl
  changes_trans := Store.Grows.trans
  fits_later grows known := known.later grows
  counted holds := ⟨⟨holds.1.counted, holds.2⟩, Store.grows_counted _⟩
  integer _ _ := Nat.lt_succ_self _
  string _ _ := Nat.lt_succ_self _
  function holds _ _ := ⟨Nat.lt_succ_self _, holds.2⟩
  null holds := Nat.lt_of_lt_of_le (by decide) holds.1.constants
  boolean holds value := by
    cases value with
    | true => exact Nat.lt_of_lt_of_le (by decide) holds.1.constants
    | false => exact Nat.lt_of_lt_of_le (by decide) holds.1.constants
  found holds found := holds.1.bound (Store.binds_of_get? found)
  bound {scope store value} holds known name := by
    have grows := store.grows_set scope name value
    exact ⟨⟨holds.1.set known _ name, Nat.lt_of_lt_of_le holds.2 grows.scopes⟩, grows⟩
  entered holds known := by
    refine ⟨holds.1.openScope ?_, by simp [Store.openScope]⟩
    rintro around same
    cases same
    exact known.2
  left {scope store outer later} holds inside changes := by
    have grows := (store.grows_openScope (some outer)).trans changes
    exact ⟨⟨inside.1, Nat.lt_of_lt_of_le holds.2 grows.scopes⟩, grows⟩

/-- What evaluation starts from a valid store in one of its scopes ends in a valid store. -/
theorem Store.Valid.node {store : Store} (valid : store.Valid) {scope : ScopeId}
    (known : scope < store.scopes.size) (depth : Nat) (node : Node) :
    (Eval.node depth scope node store).2.Valid ∧
      store.Grows (Eval.node depth scope node store).2 := by
  obtain ⟨⟨after, _⟩, grows⟩ := Discipline.validity.kept_node depth scope node ⟨valid, known⟩
  exact ⟨after, grows⟩

/-- So does a call of a function that was made in one of the scopes, with known arguments. -/
theorem Store.Valid.call {store : Store} (valid : store.Valid) {function : Function}
    {arguments : List Object} (made : function.scope < store.scopes.size)
    (given : ∀ argument ∈ arguments, argument.Known store) (depth : Nat) :
    (Eval.apply depth function arguments store).2.Valid ∧
      store.Grows (Eval.apply depth function arguments store).2 := by
  have known : (Object.function 0 function).Known store :=
    ⟨Nat.lt_of_lt_of_le (by decide) valid.constants, made⟩
  have kept : Discipline.validity.Kept function.scope store Discipline.validity.Fits
      (Eval.apply depth function arguments store) :=
    Discipline.validity.kept_apply depth ⟨valid, made⟩ ⟨0, known⟩ given
  exact ⟨kept.holds.1, kept.changes⟩

end Monkey
