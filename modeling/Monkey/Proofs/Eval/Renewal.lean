import Monkey.Proofs.Eval.Agreement
import Monkey.Proofs.Eval.Equivariance
import Monkey.Proofs.Eval.Validity

/-!
Two evaluations from stores that agree on what can be come by. What was there before stands for
itself, and what is made on the way in one of them for what is made at the same point in the other.
-/
namespace Monkey

/-- Identities in use on both sides stand for themselves, and the ones given out later on one side
for those given out later on the other, in order. -/
inductive Renewed (kept : Nat → Prop) (one two : Nat) : Nat → Nat → Prop
  | kept {id : Nat} (used : kept id) : Renewed kept one two id id
  | made (k : Nat) : Renewed kept one two (one + k) (two + k)

section Renewed

variable {kept : Nat → Prop} {one two : Nat} {i j o p : Nat}

theorem Renewed.lt_iff (used : ∀ {id}, kept id → id < one ∧ id < two)
    (first : Renewed kept one two i j) (second : Renewed kept one two o p) :
    o < i ↔ p < j := by
  cases first with
  | kept first =>
    cases second with
    | kept second => rfl
    | made l =>
      have below := used first
      omega
  | made k =>
    cases second with
    | kept second =>
      have below := used second
      omega
    | made l => omega

theorem Renewed.eq_iff (used : ∀ {id}, kept id → id < one ∧ id < two)
    (first : Renewed kept one two i j) (second : Renewed kept one two o p) :
    i = o ↔ j = p := by
  have less := Renewed.lt_iff used first second
  have more := Renewed.lt_iff used second first
  omega

theorem Renewed.eq_of_used (pair : Renewed kept one two i j) (earlier : i < one ∨ j < two) :
    i = j := by
  cases pair with
  | kept _ => rfl
  | made k => omega

/-- What one side gives out first when it has given out all up to there, the other gives out when it
has given out as many. -/
theorem Renewed.sub_eq (used : ∀ {id}, kept id → id < one ∧ id < two)
    (pair : Renewed kept one two i j) (later : one ≤ i) :
    two ≤ j ∧ i - one = j - two := by
  cases pair with
  | kept id =>
    have below := used id
    omega
  | made k => omega

end Renewed

/-- The relation keeps what was in use at the start, and pairs off what was given out between the
start and the end, one side with the other. -/
structure Renews (r : Nat → Nat → Prop) (start stop start' stop' : Nat) : Prop where
  kept : ∀ {i j}, r i j → i < start ∨ j < start' → i = j
  made : ∀ {i}, start ≤ i → i < stop → ∃ j, start' ≤ j ∧ j < stop' ∧ r i j
  matched : ∀ {j}, start' ≤ j → j < stop' → ∃ i, start ≤ i ∧ i < stop ∧ r i j

theorem renews_renewed {kept : Nat → Prop} {start stop start' stop' : Nat}
    (used : ∀ {id}, kept id → id < start ∧ id < start') (grows : start ≤ stop)
    (next : Renewed kept start start' stop stop') :
    Renews (Renewed kept start start') start stop start' stop' := by
  obtain ⟨grows', count⟩ := Renewed.sub_eq used next grows
  constructor
  · intro i j pair earlier
    exact pair.eq_of_used earlier
  · intro i later earlier
    have pair : Renewed kept start start' (start + (i - start)) (start' + (i - start)) := .made _
    rw [Nat.add_sub_cancel' later] at pair
    exact ⟨_, by omega, by omega, pair⟩
  · intro j later earlier
    have pair : Renewed kept start start' (start + (j - start')) (start' + (j - start')) := .made _
    rw [Nat.add_sub_cancel' later] at pair
    exact ⟨_, by omega, by omega, pair⟩

structure Correspondence.Renewing (m : Correspondence) (one one' two two' : Store) : Prop where
  name : m.name = id
  scopes : Renews m.scope one.scopes.size one'.scopes.size two.scopes.size two'.scopes.size
  objects : Renews m.object one.nextId one'.nextId two.nextId two'.nextId

namespace Correspondence

def renewal (one two : Store) (kept : ScopeId → Prop)
    (used : ∀ {id}, kept id → id < one.scopes.size ∧ id < two.scopes.size)
    (constants : Object.firstFreeId ≤ one.nextId ∧ Object.firstFreeId ≤ two.nextId) :
    Correspondence where
  name := id
  scope := Renewed kept one.scopes.size two.scopes.size
  object := Renewed (fun id => id < one.nextId ∧ id < two.nextId) one.nextId two.nextId
  name_injective same := same
  scope_order := Renewed.lt_iff used
  object_unique := Renewed.eq_iff fun both => both
  constant small :=
    .kept ⟨Nat.lt_of_lt_of_le small constants.1, Nat.lt_of_lt_of_le small constants.2⟩

theorem objects_refl {m : Correspondence} (names : m.name = id) {one two : Store}
    (ids : ∀ {i}, i < one.nextId → i < two.nextId → m.object i i) {value : Object}
    (known : value.Known one) (known' : value.Known two)
    (scopes : ∀ {i}, value.Captures i → m.scope i i) : m.Objects value value := by
  induction value with
  | integer => exact .integer (ids known known') _
  | boolean => exact .boolean (ids known known') _
  | string => exact .string (ids known known') _
  | null => exact .null (ids known known')
  | error i cause =>
    have pair : m.Objects _ _ := .error (ids known known') cause
    rwa [names, EvalError.rename_id] at pair
  | returnValue i inner ih =>
    have pair := ih known.2 known'.2 fun captures => scopes (.returnValue i captures)
    exact .returnValue (ids known.1 known'.1) pair
  | function i f =>
    refine .function (ids known.1 known'.1) ⟨?_, ?_, scopes (.function i f)⟩
    · rw [names, List.map_id]
    · rw [names, renameAll_id]

section Renewal

variable {one two : Store} {kept : ScopeId → Prop}
  {used : ∀ {id}, kept id → id < one.scopes.size ∧ id < two.scopes.size}
  {constants : Object.firstFreeId ≤ one.nextId ∧ Object.firstFreeId ≤ two.nextId}

theorem renewal_objects {value : Object} (known : value.Known one) (known' : value.Known two)
    (captured : ∀ {i}, value.Captures i → kept i) :
    (renewal one two kept used constants).Objects value value :=
  objects_refl rfl (fun below below' => Renewed.kept ⟨below, below'⟩) known known'
    fun captures => Renewed.kept (captured captures)

theorem renewal_scopes {a b : Scope} (alike : a.Alike b) (referred : ∀ {i}, a.Refers i → kept i)
    (bound : ∀ {name value}, a.find? name = some value → value.Known one)
    (bound' : ∀ {name value}, b.find? name = some value → value.Known two) :
    (renewal one two kept used constants).Scopes a b where
  outer := by
    rw [← alike.outer]
    cases lies : a.outer with
    | none => exact .none
    | some around => exact .some (.kept (referred (.outer lies)))
  find name := by
    show Option.Rel _ (a.find? name) (b.find? name)
    cases binds : a.find? name with
    | none =>
      rw [(alike.find name).symm.trans binds]
      exact .none
    | some value =>
      have binds' := (alike.find name).symm.trans binds
      rw [binds']
      exact .some (renewal_objects (bound binds) (bound' binds')
        fun captures => referred (.bound binds captures))

theorem renewal_stores (valid : one.Valid) (valid' : two.Valid)
    (agree : ∀ id, kept id → Option.Rel Scope.Alike one.scopes[id]? two.scopes[id]?)
    (closed : ∀ {id here next}, kept id → one.scopes[id]? = some here → here.Refers next →
      kept next) :
    (renewal one two kept used constants).Stores one two where
  scopes {i j} pair := by
    cases pair with
    | kept inUse =>
      have cells := agree i inUse
      generalize found : one.scopes[i]? = cell at cells
      generalize found' : two.scopes[i]? = cell' at cells
      cases cells with
      | none => exact .none
      | some alike =>
        exact .some (renewal_scopes alike (closed inUse found)
          (fun binds => valid.bound ⟨_, _, _, found, binds⟩)
          fun binds => valid'.bound ⟨_, _, _, found', binds⟩)
    | made k =>
      rw [Array.getElem?_eq_none (Nat.le_add_right _ _),
        Array.getElem?_eq_none (Nat.le_add_right _ _)]
      exact .none
  next_scope := .made
  next_object := .made

theorem renewal_renewing {one' two' : Store} (grows : one.Grows one')
    (stores : (renewal one two kept used constants).Stores one' two') :
    (renewal one two kept used constants).Renewing one one' two two' where
  name := rfl
  scopes := renews_renewed used grows.scopes (stores.next_scope 0)
  objects := renews_renewed (fun both => both) grows.objects (stores.next_object 0)

end Renewal

/-- Valid stores that agree on what can be come by correspond, what can be come by to itself, and
wherever corresponding evaluations lead, only what they made is another. -/
theorem exists_renewal {one two : Store} {scopes : List ScopeId} {objects : List Object}
    (valid : one.Valid) (valid' : two.Valid) (known : ∀ id ∈ scopes, id < one.scopes.size)
    (given : ∀ value ∈ objects, value.Known one ∧ value.Known two)
    (agree : one.AgreesWith two scopes objects) :
    ∃ m : Correspondence, m.name = id ∧ m.Stores one two ∧ (∀ id ∈ scopes, m.scope id id) ∧
      List.Forall₂ m.Objects objects objects ∧
      ∀ {one' two' : Store}, one.Grows one' → m.Stores one' two' →
        m.Renewing one one' two two' := by
  have used {id : ScopeId} (reaches : one.Reaches scopes objects id) :
      id < one.scopes.size ∧ id < two.scopes.size := by
    have inOne := valid.lt_of_reaches known (fun value here => (given value here).1) reaches
    have cells := agree id reaches
    rw [Array.getElem?_eq_getElem inOne] at cells
    generalize found : two.scopes[id]? = cell at cells
    cases cells with
    | some alike => exact ⟨inOne, (Array.getElem?_eq_some_iff.1 found).1⟩
  have values : List.Forall₂ (renewal one two (one.Reaches scopes objects) used
      ⟨valid.constants, valid'.constants⟩).Objects objects objects := by
    apply List.forall₂_same.2
    intro value here
    exact renewal_objects (given value here).1 (given value here).2 (.object here)
  exact ⟨_, rfl, renewal_stores valid valid' agree .step, fun id here => .kept (.scope here),
    values, renewal_renewing⟩

end Correspondence

end Monkey
