import Monkey.Proofs.Eval.Bookkeeping
import Monkey.Proofs.Eval.Session
import Monkey.Proofs.Eval.Signals

/-!
A register of the objects that were made. No two of them have the same identity, and `null`, `true`
and `false` are in it once. Whatever a session has stands in the register.
-/
namespace Monkey

/-- Of `null`, `true` and `false` there is one each. -/
def Object.Canonical : Object → Prop
  | .boolean id value => Object.boolean id value = .ofBool value
  | .null id => Object.null id = .theNull
  | _ => True

structure Register where
  store : Store
  objects : Object → Prop

namespace Register

structure Sound (register : Register) : Prop where
  null : register.objects .theNull
  boolean : ∀ value, register.objects (.ofBool value)
  canonical : ∀ object, register.objects object → object.Canonical
  unique : ∀ one other, register.objects one → register.objects other → one.id = other.id →
    one = other
  used : ∀ object, register.objects object → object.id < register.store.nextId
  carried : ∀ id inner, register.objects (.returnValue id inner) → register.objects inner
  bound : ∀ object, register.store.Binds object → register.objects object

def first : Register := ⟨.empty, fun object => object = .theNull ∨ ∃ value, object = .ofBool value⟩

theorem sound_first : first.Sound where
  null := .inl rfl
  boolean value := .inr ⟨value, rfl⟩
  canonical := by
    rintro object (rfl | ⟨value, rfl⟩)
    · rfl
    · cases value <;> rfl
  unique := by
    rintro one other (rfl | ⟨value, rfl⟩) (rfl | ⟨value', rfl⟩) same
    · rfl
    · cases value' <;> contradiction
    · cases value <;> contradiction
    · cases value <;> cases value' <;> first | rfl | contradiction
  used := by
    rintro object (rfl | ⟨value, rfl⟩)
    · decide
    · cases value <;> decide
  carried := by
    rintro id inner (same | ⟨value, same⟩)
    · cases same
    · cases value <;> cases same
  bound object binds := absurd binds (Store.not_binds_empty object)

def entered (register : Register) (object : ObjectId → Object) : Register where
  store := (register.store.create object).2
  objects other := other = (register.store.create object).1 ∨ register.objects other

structure Enterable (register : Register) (object : ObjectId → Object) : Prop where
  id_eq : ∀ id, (object id).id = id
  canonical : ∀ id, (object id).Canonical
  carried : ∀ id id' inner, object id = .returnValue id' inner → register.objects inner

variable {register : Register}

theorem Sound.entered (sound : register.Sound) {object : ObjectId → Object}
    (enterable : register.Enterable object) : (register.entered object).Sound where
  null := .inr sound.null
  boolean value := .inr (sound.boolean value)
  canonical := by
    rintro other (rfl | before)
    · exact enterable.canonical _
    · exact sound.canonical other before
  unique := by
    -- the next identity lies beyond all that were given out
    have new (other : Object) (before : register.objects other) :
        (register.store.create object).1.id ≠ other.id := by
      have made : (register.store.create object).1.id = register.store.nextId :=
        enterable.id_eq register.store.nextId
      rw [made]
      exact Nat.ne_of_gt (sound.used other before)
    rintro one other (rfl | before) (rfl | before') same
    · rfl
    · exact absurd same (new other before')
    · exact absurd same.symm (new one before)
    · exact sound.unique one other before before' same
  used := by
    rintro other (rfl | before)
    · show (object register.store.nextId).id < register.store.nextId + 1
      rw [enterable.id_eq]
      exact Nat.lt_succ_self _
    · exact Nat.lt_succ_of_lt (sound.used other before)
  carried := by
    rintro id inner (same | before)
    · exact .inr (enterable.carried _ id inner same.symm)
    · exact .inr (sound.carried id inner before)
  bound other binds := .inr (sound.bound other binds)

/-- A register stays sound for a store that gave out as many identities, if what is bound there is
entered. -/
theorem Sound.rebound (sound : register.Sound) {store : Store}
    (counts : store.nextId = register.store.nextId)
    (bound : ∀ object, store.Binds object → register.objects object) :
    Sound { register with store := store } where
  null := sound.null
  boolean := sound.boolean
  canonical := sound.canonical
  unique := sound.unique
  used object known := counts ▸ sound.used object known
  carried := sound.carried
  bound := bound

theorem Sound.set (sound : register.Sound) (scope : ScopeId) (name : String) {value : Object}
    (known : register.objects value) :
    Sound { register with store := register.store.set scope name value } := by
  refine sound.rebound ?_ ?_
  · rfl
  · intro object binds
    rcases Store.binds_of_set binds with rfl | before
    · exact known
    · exact sound.bound object before

theorem Sound.openScope (sound : register.Sound) (outer : Option ScopeId) :
    Sound { register with store := (register.store.openScope outer).2 } :=
  sound.rebound rfl fun object binds => sound.bound object (Store.binds_of_openScope binds)

theorem enterable_of_makes {p : Expr → Prop} {q : Stmt → Prop} {scope : ScopeId}
    {object : ObjectId → Object} (makes : Makes p q scope object) : register.Enterable object := by
  cases makes with
  | integer | string | function =>
    exact ⟨fun _ => rfl, fun _ => trivial, fun _ _ _ same => by cases same⟩

theorem enterable_error (cause : EvalError) : register.Enterable (.error · cause) :=
  ⟨fun _ => rfl, fun _ => trivial, fun _ _ _ same => by cases same⟩

theorem enterable_returnValue {inner : Object} (known : register.objects inner) :
    register.Enterable (.returnValue · inner) :=
  ⟨fun _ => rfl, fun _ => trivial, fun _ _ _ same => by cases same; exact known⟩

end Register

def Bookkeeping.register : Bookkeeping Register where
  store := Register.store
  Holds _ register := register.Sound
  Changes _ before after := ∀ object, before.objects object → after.objects object
  Fits register object := register.objects object
  OfExpr _ := True
  OfStmt _ := True
  unchanged _ _ _ known := known
  changes_trans first second object known := second object (first object known)
  fits_later changes known := changes _ known
  created sound makes :=
    ⟨_, rfl, sound.entered (Register.enterable_of_makes makes), fun _ => .inr, .inl rfl⟩
  null sound := sound.null
  boolean sound := sound.boolean
  found sound found := sound.bound _ (Store.binds_of_get? found)
  bound sound known name := ⟨_, rfl, sound.set _ name known, fun _ known => known⟩
  written _ := allThroughout_of_all (fun _ => trivial) (fun _ => trivial) _
  entered sound _ := ⟨_, rfl, sound.openScope _, fun _ after changes => ⟨after, changes⟩⟩

/-- What an evaluation makes can be entered, and what it gives is in the register then. -/
theorem Register.Sound.node {register : Register} (sound : register.Sound) {depth : Nat}
    {scope : ScopeId} {node : Node} {value : Object} {later : Store}
    (gives : Eval.node depth scope node register.store = (some value, later)) :
    ∃ after : Register, after.store = later ∧ after.Sound ∧
      (∀ object, register.objects object → after.objects object) ∧ after.objects value := by
  rw [Eval.node_eq] at gives
  have text := node.throughout_of_all (fun _ => trivial) (fun _ => trivial)
  obtain ⟨after, ends⟩ := Bookkeeping.register.kept_run depth scope text sound
  change Bookkeeping.register.Ends scope register after _
    (Eval.run (Eval.apply depth) scope node register.store) at ends
  generalize Eval.run (Eval.apply depth) scope node register.store = result at gives ends
  obtain ⟨outcome, last⟩ := result
  obtain rfl : after.store = last := ends.store
  -- a signal is made an object in the end, which is one more to enter
  have signal {object : ObjectId → Object} (enterable : after.Enterable object) :
      ∃ last : Register, last.store = (after.store.create object).2 ∧ last.Sound ∧
        (∀ other, register.objects other → last.objects other) ∧
        last.objects (after.store.create object).1 :=
    ⟨after.entered object, rfl, ends.holds.entered enterable,
      fun other known => .inr (ends.changes other known), .inl rfl⟩
  cases outcome with
  | ok object =>
    cases gives
    exact ⟨after, rfl, ends.holds, ends.changes, ends.good _ rfl⟩
  | error stop =>
    cases stop with
    | returned inner =>
      cases gives
      exact signal (enterable_returnValue (ends.returned inner rfl))
    | failed cause =>
      cases gives
      exact signal (enterable_error cause)
    | exhausted => cases gives

namespace Session

variable {session next : Session}

structure Registered (session : Session) (register : Register) : Prop where
  store : register.store = session.store
  sound : register.Sound
  held : ∀ object ∈ session.held, register.objects object

theorem CanMake.enterable {register : Register} (registered : session.Registered register)
    {object : ObjectId → Object} (can : session.CanMake object) : register.Enterable object := by
  cases can with
  | integer | string | error | function =>
    exact ⟨fun _ => rfl, fun _ => trivial, fun _ _ _ same => by cases same⟩
  | returnValue held => exact Register.enterable_returnValue (registered.held _ held)

theorem Step.registered (step : session.Step next)
    (before : ∃ register, session.Registered register) : ∃ register, next.Registered register := by
  obtain ⟨⟨store, objects⟩, same, sound, held⟩ := before
  obtain ⟨store', hand⟩ := session
  cases same
  cases step with
  | openScope known => exact ⟨_, rfl, sound.openScope _, held⟩
  | get found =>
    exact ⟨_, rfl, sound, List.forall_mem_cons.2 ⟨sound.bound _ (Store.binds_of_get? found), held⟩⟩
  | set scope known name member => exact ⟨_, rfl, sound.set _ name (held _ member), held⟩
  | null => exact ⟨_, rfl, sound, List.forall_mem_cons.2 ⟨sound.null, held⟩⟩
  | boolean value => exact ⟨_, rfl, sound, List.forall_mem_cons.2 ⟨sound.boolean value, held⟩⟩
  | create can =>
    have enterable := can.enterable ⟨rfl, sound, held⟩
    refine ⟨_, rfl, sound.entered enterable, List.forall_mem_cons.2 ⟨.inl rfl, ?_⟩⟩
    exact fun object member => .inr (held object member)
  | @unwrap id inner member =>
    exact ⟨_, rfl, sound, List.forall_mem_cons.2 ⟨sound.carried id _ (held _ member), held⟩⟩
  | evaluate depth scope known node gives =>
    obtain ⟨after, store, sound, more, given⟩ := sound.node gives
    refine ⟨after, store, sound, List.forall_mem_cons.2 ⟨given, ?_⟩⟩
    exact fun object member => more object (held object member)

theorem Reached.registered (reached : session.Reached) :
    ∃ register, session.Registered register := by
  induction reached with
  | refl => exact ⟨.first, rfl, Register.sound_first, nofun⟩
  | tail _ step ih => exact step.registered ih

theorem Registered.has {register : Register} (registered : session.Registered register)
    {object : Object} (has : session.Has object) : register.objects object := by
  induction has with
  | held member => exact registered.held _ member
  | bound binds => exact registered.sound.bound _ (registered.store ▸ binds)
  | inner outside ih => exact registered.sound.carried _ _ ih

end Session

end Monkey
