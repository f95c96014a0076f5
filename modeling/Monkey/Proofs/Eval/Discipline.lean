import Monkey.Proofs.Eval.Bookkeeping

/-!
Disciplines. A discipline says what holds of a store while something is evaluated in a scope, how
the store may change meanwhile, and what the values are like. If making, looking up and binding
objects keeps to it, and opening a scope for a call does, then every evaluation keeps to it: a
discipline is a bookkeeping whose book is the store itself.
-/
namespace Monkey

variable {α : Type}

structure Discipline where
  Holds : ScopeId → Store → Prop
  Changes : ScopeId → Store → Store → Prop
  Fits : Store → Object → Prop
  unchanged : ∀ scope store, Changes scope store store
  changes_trans : ∀ {scope first second third}, Changes scope first second →
    Changes scope second third → Changes scope first third
  fits_later : ∀ {scope store later value}, Changes scope store later → Fits store value →
    Fits later value
  counted : ∀ {scope store}, Holds scope store →
    Holds scope { store with nextId := store.nextId + 1 } ∧
      Changes scope store { store with nextId := store.nextId + 1 }
  integer : ∀ {scope store}, Holds scope store → ∀ value,
    Fits { store with nextId := store.nextId + 1 } (.integer store.nextId value)
  string : ∀ {scope store}, Holds scope store → ∀ text,
    Fits { store with nextId := store.nextId + 1 } (.string store.nextId text)
  function : ∀ {scope store}, Holds scope store → ∀ parameters body,
    Fits { store with nextId := store.nextId + 1 } (.function store.nextId ⟨parameters, body, scope⟩)
  null : ∀ {scope store}, Holds scope store → Fits store .theNull
  boolean : ∀ {scope store}, Holds scope store → ∀ value, Fits store (.ofBool value)
  found : ∀ {scope store name value}, Holds scope store → store.get? scope name = some value →
    Fits store value
  bound : ∀ {scope store value}, Holds scope store → Fits store value → ∀ name,
    Holds scope (store.set scope name value) ∧ Changes scope store (store.set scope name value)
  entered : ∀ {scope store id function}, Holds scope store → Fits store (.function id function) →
    Holds store.scopes.size (store.openScope (some function.scope)).2
  left : ∀ {scope store outer later}, Holds scope store → Holds store.scopes.size later →
    Changes store.scopes.size (store.openScope (some outer)).2 later →
    Holds scope later ∧ Changes scope store later

namespace Discipline

variable {d : Discipline} {scope : ScopeId} {store : Store}

structure Kept (d : Discipline) (scope : ScopeId) (store : Store) (Good : Store → α → Prop)
    (result : Except Signal α × Store) : Prop where
  holds : d.Holds scope result.2
  changes : d.Changes scope store result.2
  good : ∀ value, result.1 = .ok value → Good result.2 value
  returned : ∀ value, result.1 = .error (.returned value) → d.Fits result.2 value

def bookkeeping (d : Discipline) : Bookkeeping Store where
  store := id
  Holds := d.Holds
  Changes := d.Changes
  Fits := d.Fits
  OfExpr _ := True
  OfStmt _ := True
  unchanged := d.unchanged
  changes_trans := d.changes_trans
  fits_later := d.fits_later
  created holds makes := by
    obtain ⟨after, changes⟩ := d.counted holds
    refine ⟨_, rfl, after, changes, ?_⟩
    cases makes with
    | integer value => exact d.integer holds value
    | string text => exact d.string holds text
    | @function parameters body => exact d.function holds parameters body
  null := d.null
  boolean := d.boolean
  found := d.found
  bound holds fits name := ⟨_, rfl, d.bound holds fits name⟩
  written _ := allThroughout_of_all (fun _ => trivial) (fun _ => trivial) _
  entered holds fits :=
    ⟨_, rfl, d.entered holds fits, fun _ inside changes => d.left holds inside changes⟩

theorem kept_of_bookkeeping {Good : Store → α → Prop} {result : Except Signal α × Store}
    (kept : d.bookkeeping.Kept scope store Good result) : d.Kept scope store Good result := by
  obtain ⟨later, ends⟩ := kept
  obtain rfl : later = result.2 := ends.store
  exact ⟨ends.holds, ends.changes, ends.good, ends.returned⟩

def CallsKept (d : Discipline) (call : Eval.Call) : Prop :=
  ∀ ⦃scope store function arguments⦄, d.Holds scope store →
    (∃ id, d.Fits store (.function id function)) → (∀ argument ∈ arguments, d.Fits store argument) →
    d.Kept scope store d.Fits (call function arguments store)

theorem kept_apply (d : Discipline) (depth : Nat) : d.CallsKept (Eval.apply depth) := by
  intro scope store function arguments holds fits allFit
  exact kept_of_bookkeeping (d.bookkeeping.kept_apply depth holds fits allFit)

theorem kept_run (d : Discipline) (depth : Nat) (scope : ScopeId) (node : Node)
    (holds : d.Holds scope store) :
    d.Kept scope store d.Fits (Eval.run (Eval.apply depth) scope node store) :=
  have text := node.throughout_of_all (fun _ => trivial) (fun _ => trivial)
  kept_of_bookkeeping (d.bookkeeping.kept_run depth scope text holds)

theorem kept_node (d : Discipline) (depth : Nat) (scope : ScopeId) (node : Node)
    (holds : d.Holds scope store) :
    d.Holds scope (Eval.node depth scope node store).2 ∧
      d.Changes scope store (Eval.node depth scope node store).2 := by
  have kept := d.kept_run depth scope node holds
  rw [Eval.node_eq]
  generalize Eval.run (Eval.apply depth) scope node store = result at kept
  obtain ⟨outcome, later⟩ := result
  obtain ⟨counts, more⟩ := d.counted kept.holds
  have created := d.changes_trans kept.changes more
  cases outcome with
  | ok value => exact ⟨kept.holds, kept.changes⟩
  | error stop =>
    cases stop with
    | returned value => exact ⟨counts, created⟩
    | failed cause => exact ⟨counts, created⟩
    | exhausted => exact ⟨kept.holds, kept.changes⟩

end Discipline

end Monkey
