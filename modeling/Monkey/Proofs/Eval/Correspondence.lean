import Monkey.Proofs.Eval.Steps
import Monkey.Proofs.Program.Rename
import Monkey.Proofs.Scope.Binding

/-!
Stores that correspond. Names, scopes and objects of one store have counterparts in another, one to
one. What evaluation does with identities is to compare them and to give out the next ones, so the
steps of two evaluations that start from corresponding stores keep them corresponding. Another
relation of two stores may stand in its place, if what evaluation does to stores keeps it.
-/
namespace Monkey

variable {α β γ δ : Type}

structure Correspondence where
  name : String → String
  scope : ScopeId → ScopeId → Prop
  object : ObjectId → ObjectId → Prop
  name_injective : ∀ {a b}, name a = name b → a = b
  scope_order : ∀ {i j o p}, scope i j → scope o p → (o < i ↔ p < j)
  object_unique : ∀ {i j o p}, object i j → object o p → (i = o ↔ j = p)
  constant : ∀ {id}, id < Object.firstFreeId → object id id

namespace Correspondence

variable (m : Correspondence)

structure Functions (f g : Function) : Prop where
  parameters : g.parameters = f.parameters.map m.name
  body : g.body = renameAll m.name f.body
  scope : m.scope f.scope g.scope

inductive Objects : Object → Object → Prop
  | integer {i j : ObjectId} (ids : m.object i j) (value : Int64) :
    Objects (.integer i value) (.integer j value)
  | boolean {i j : ObjectId} (ids : m.object i j) (value : Bool) :
    Objects (.boolean i value) (.boolean j value)
  | string {i j : ObjectId} (ids : m.object i j) (text : String) :
    Objects (.string i text) (.string j text)
  | null {i j : ObjectId} (ids : m.object i j) : Objects (.null i) (.null j)
  | returnValue {i j : ObjectId} {a b : Object} (ids : m.object i j) (inner : Objects a b) :
    Objects (.returnValue i a) (.returnValue j b)
  | error {i j : ObjectId} (ids : m.object i j) (cause : EvalError) :
    Objects (.error i cause) (.error j (cause.rename m.name))
  | function {i j : ObjectId} {f g : Function} (ids : m.object i j) (functions : m.Functions f g) :
    Objects (.function i f) (.function j g)

structure Scopes (a b : Scope) : Prop where
  outer : Option.Rel m.scope a.outer b.outer
  find : ∀ name, Option.Rel m.Objects (a.find? name) (b.find? (m.name name))

/-- Corresponding scopes answer alike, and what is made next corresponds as well. -/
structure Stores (s t : Store) : Prop where
  scopes : ∀ {i j : ScopeId}, m.scope i j → Option.Rel m.Scopes s.scopes[i]? t.scopes[j]?
  next_scope : ∀ k, m.scope (s.scopes.size + k) (t.scopes.size + k)
  next_object : ∀ k, m.object (s.nextId + k) (t.nextId + k)

inductive Signals : Signal → Signal → Prop
  | returned {a b : Object} (values : m.Objects a b) : Signals (.returned a) (.returned b)
  | failed (cause : EvalError) : Signals (.failed cause) (.failed (cause.rename m.name))
  | exhausted : Signals .exhausted .exhausted

inductive Outcomes (R : α → β → Prop) : Except Signal α → Except Signal β → Prop
  | ok {a : α} {b : β} (values : R a b) : Outcomes R (.ok a) (.ok b)
  | error {a b : Signal} (signals : m.Signals a b) : Outcomes R (.error a) (.error b)

def Steps (Rel : Store → Store → Prop) (R : α → β → Prop) (c : Eval α) (d : Eval β) : Prop :=
  ∀ ⦃s t : Store⦄, Rel s t → m.Outcomes R (c s).1 (d t).1 ∧ Rel (c s).2 (d t).2

/-- Related stores answer alike, give out corresponding identities, and stay related when each is
done what corresponds to what is done to the other. -/
structure Keeps (Rel : Store → Store → Prop) : Prop where
  next_object : ∀ {s t}, Rel s t → m.object s.nextId t.nextId
  next_scope : ∀ {s t}, Rel s t → m.scope s.scopes.size t.scopes.size
  get? : ∀ {s t i j}, Rel s t → m.scope i j → ∀ name,
    Option.Rel m.Objects (s.get? i name) (t.get? j (m.name name))
  counted : ∀ {s t}, Rel s t →
    Rel { s with nextId := s.nextId + 1 } { t with nextId := t.nextId + 1 }
  set : ∀ {s t i j v w}, Rel s t → m.scope i j → ∀ name, m.Objects v w →
    Rel (s.set i name v) (t.set j (m.name name) w)
  openScope : ∀ {s t i j}, Rel s t → m.scope i j →
    Rel (s.openScope (some i)).2 (t.openScope (some j)).2

variable {m}

theorem scope_unique {i j o p : ScopeId} (first : m.scope i j) (second : m.scope o p) :
    i = o ↔ j = p := by
  have less := m.scope_order first second
  have more := m.scope_order second first
  constructor
  · rintro rfl
    have notLess := mt less.2 (Nat.lt_irrefl i)
    have notMore := mt more.2 (Nat.lt_irrefl i)
    exact Nat.le_antisymm (Nat.not_lt.1 notLess) (Nat.not_lt.1 notMore)
  · rintro rfl
    have notLess := mt less.1 (Nat.lt_irrefl j)
    have notMore := mt more.1 (Nat.lt_irrefl j)
    exact Nat.le_antisymm (Nat.not_lt.1 notLess) (Nat.not_lt.1 notMore)

section Objects

variable {a b c d : Object}

theorem Objects.ids (same : m.Objects a b) : m.object a.id b.id := by
  cases same with
  | integer ids | boolean ids | string ids | null ids | returnValue ids | error ids
  | function ids => exact ids

theorem Objects.type_eq (same : m.Objects a b) : a.type = b.type := by
  cases same <;> rfl

theorem Objects.isTruthy_eq (same : m.Objects a b) : a.isTruthy = b.isTruthy := by
  cases same <;> rfl

theorem Objects.identical_eq (first : m.Objects a b) (second : m.Objects c d) :
    a.identical c = b.identical d := by
  have unique := m.object_unique first.ids second.ids
  unfold Object.identical
  rw [Bool.eq_iff_iff, beq_iff_eq, beq_iff_eq, unique]

theorem objects_null : m.Objects .theNull .theNull := .null (m.constant (by decide))

theorem objects_ofBool (value : Bool) : m.Objects (.ofBool value) (.ofBool value) := by
  cases value with
  | true => exact .boolean (m.constant (by decide)) true
  | false => exact .boolean (m.constant (by decide)) false

end Objects

section Stores

variable {s t : Store} {i j : ScopeId}

theorem Stores.counted (stores : m.Stores s t) :
    m.Stores { s with nextId := s.nextId + 1 } { t with nextId := t.nextId + 1 } where
  scopes := stores.scopes
  next_scope := stores.next_scope
  next_object k := by
    have shift (n : Nat) : n + (k + 1) = n + 1 + k := by omega
    have later := stores.next_object (k + 1)
    rwa [shift, shift] at later

theorem Stores.get? (stores : m.Stores s t) (scopes : m.scope i j) (name : String) :
    Option.Rel m.Objects (s.get? i name) (t.get? j (m.name name)) := by
  induction i using Nat.strongRecOn generalizing j with
  | ind i ih =>
    have cells := stores.scopes scopes
    generalize here : s.scopes[i]? = one at cells
    generalize there : t.scopes[j]? = two at cells
    cases cells with
    | none =>
      rw [Store.get?_of_no_scope here, Store.get?_of_no_scope there]
      exact .none
    | @some a b alike =>
      have found := alike.find name
      have around := alike.outer
      rw [Store.get?_of_scope here, Store.get?_of_scope there]
      generalize a.find? name = bound at found
      generalize b.find? (m.name name) = bound' at found
      generalize a.outer = outer at around
      generalize b.outer = outer' at around
      cases found with
      | some values => exact .some values
      | none =>
        cases around with
        | none => exact .none
        | @some o p outers =>
          have order := m.scope_order scopes outers
          by_cases inner : o < i
          · simp only [Option.or, Option.bind, if_pos inner, if_pos (order.1 inner)]
            exact ih o inner outers
          · simp only [Option.or, Option.bind, if_neg inner, if_neg (mt order.2 inner)]
            exact .none

theorem Scopes.bind {a b : Scope} (alike : m.Scopes a b) (name : String) {v w : Object}
    (values : m.Objects v w) : m.Scopes (a.bind name v) (b.bind (m.name name) w) where
  outer := alike.outer
  find other := by
    rw [Scope.find?_bind, Scope.find?_bind]
    by_cases same : other = name
    · rw [if_pos same, if_pos (congrArg m.name same)]
      exact .some values
    · rw [if_neg same, if_neg (mt m.name_injective same)]
      exact alike.find other

theorem Stores.set (stores : m.Stores s t) (scopes : m.scope i j) (name : String) {v w : Object}
    (values : m.Objects v w) : m.Stores (s.set i name v) (t.set j (m.name name) w) where
  scopes {o p} others := by
    have cells := stores.scopes others
    have same := scope_unique scopes others
    rw [Store.scopes_set, Store.scopes_set]
    by_cases here : i = o
    · rw [if_pos here, if_pos (same.1 here)]
      generalize s.scopes[o]? = one at cells
      generalize t.scopes[p]? = two at cells
      cases cells with
      | none => exact .none
      | some alike => exact .some (alike.bind name values)
    · rwa [if_neg here, if_neg (mt same.2 here)]
  next_scope := by
    rw [Store.size_set, Store.size_set]
    exact stores.next_scope
  next_object := stores.next_object

theorem Stores.openScope {outer outer' : Option ScopeId} (stores : m.Stores s t)
    (outers : Option.Rel m.scope outer outer') :
    m.Stores (s.openScope outer).2 (t.openScope outer').2 where
  scopes {o p} others := by
    have newest : m.scope s.scopes.size t.scopes.size := stores.next_scope 0
    have same := scope_unique others newest
    rw [Store.scopes_openScope, Store.scopes_openScope]
    by_cases here : o = s.scopes.size
    · rw [if_pos here, if_pos (same.1 here)]
      exact .some ⟨outers, fun _ => .none⟩
    · rw [if_neg here, if_neg (mt same.2 here)]
      exact stores.scopes others
  next_scope k := by
    have later := stores.next_scope (k + 1)
    have shift (n : Nat) : n + 1 + k = n + (k + 1) := by omega
    rwa [Store.size_openScope, Store.size_openScope, shift, shift]
  next_object := stores.next_object

theorem keeps_stores (m : Correspondence) : m.Keeps m.Stores where
  next_object stores := stores.next_object 0
  next_scope stores := stores.next_scope 0
  get? stores scopes := stores.get? scopes
  counted stores := stores.counted
  set stores scopes name values := stores.set scopes name values
  openScope stores scopes := stores.openScope (.some scopes)

end Stores

section Steps

variable {Rel : Store → Store → Prop} {R : α → β → Prop} {R' : γ → δ → Prop}

theorem steps_pure {a : α} {b : β} (values : R a b) : m.Steps Rel R (Eval.pure a) (Eval.pure b) :=
  fun _ _ related => ⟨.ok values, related⟩

theorem steps_signal {a b : Signal} (signals : m.Signals a b) :
    m.Steps Rel R (Eval.signal a) (Eval.signal b) :=
  fun _ _ related => ⟨.error signals, related⟩

theorem steps_fail (cause : EvalError) :
    m.Steps Rel R (Eval.fail cause) (Eval.fail (cause.rename m.name)) :=
  steps_signal (.failed cause)

theorem Steps.bind {c : Eval α} {d : Eval β} {next : α → Eval γ} {next' : β → Eval δ}
    (first : m.Steps Rel R c d) (goesOn : ∀ a b, R a b → m.Steps Rel R' (next a) (next' b)) :
    m.Steps Rel R' (c >>= next) (d >>= next') := by
  intro s t related
  obtain ⟨outcomes, later⟩ := first related
  cases one : c s with
  | mk ended s' =>
    cases two : d t with
    | mk ended' t' =>
      rw [one, two] at outcomes later
      cases outcomes with
      | ok values =>
        rw [Eval.bind_of_ok one, Eval.bind_of_ok two]
        exact goesOn _ _ values later
      | error signals =>
        rw [Eval.bind_of_error one, Eval.bind_of_error two]
        exact ⟨.error signals, later⟩

theorem Steps.catchReturn {c d : Eval Object} (steps : m.Steps Rel m.Objects c d) :
    m.Steps Rel m.Objects (Eval.catchReturn c) (Eval.catchReturn d) := by
  intro s t related
  obtain ⟨outcomes, later⟩ := steps related
  unfold Eval.catchReturn
  generalize c s = one at outcomes later
  generalize d t = two at outcomes later
  obtain ⟨ended, s'⟩ := one
  obtain ⟨ended', t'⟩ := two
  cases outcomes with
  | ok values => exact ⟨.ok values, later⟩
  | error signals =>
    cases signals with
    | returned values => exact ⟨.ok values, later⟩
    | failed cause => exact ⟨.error (.failed cause), later⟩
    | exhausted => exact ⟨.error .exhausted, later⟩

theorem steps_boolean (value : Bool) :
    m.Steps Rel m.Objects (Eval.boolean value) (Eval.boolean value) :=
  steps_pure (objects_ofBool value)

variable {i j : ScopeId}

theorem Keeps.create (keeps : m.Keeps Rel) {object object' : ObjectId → Object}
    (objects : ∀ {i j}, m.object i j → m.Objects (object i) (object' j)) :
    m.Steps Rel m.Objects (Eval.create object) (Eval.create object') :=
  fun _ _ related => ⟨.ok (objects (keeps.next_object related)), keeps.counted related⟩

theorem Keeps.integer (keeps : m.Keeps Rel) (value : Int64) :
    m.Steps Rel m.Objects (Eval.integer value) (Eval.integer value) :=
  keeps.create fun ids => .integer ids value

theorem Keeps.string (keeps : m.Keeps Rel) (text : String) :
    m.Steps Rel m.Objects (Eval.string text) (Eval.string text) :=
  keeps.create fun ids => .string ids text

theorem Keeps.lookup (keeps : m.Keeps Rel) (scopes : m.scope i j) (name : String) :
    m.Steps Rel m.Objects (Eval.lookup i name) (Eval.lookup j (m.name name)) := by
  intro s t related
  have found := keeps.get? related scopes name
  unfold Eval.lookup
  generalize s.get? i name = one at found
  generalize t.get? j (m.name name) = two at found
  cases found with
  | some values => exact ⟨.ok values, related⟩
  | none => exact ⟨.error (.failed (.unknownIdentifier name)), related⟩

end Steps

end Correspondence

end Monkey
