import Monkey.Proofs.Eval.Register

/-!
What `==` says. Integers and strings are compared by content and all else by identity. Since
booleans and `null` exist once, that is to compare them by content as well. Functions alone are told
apart even if they have the same text and were made in the same scope.
-/
namespace Monkey

namespace Object

/-- The one value, whatever objects it comes as. A function is only the same as itself. -/
inductive SameValue : Object → Object → Prop
  | integer (i j : ObjectId) (value : Int64) : SameValue (.integer i value) (.integer j value)
  | string (i j : ObjectId) (text : String) : SameValue (.string i text) (.string j text)
  | boolean (i j : ObjectId) (value : Bool) : SameValue (.boolean i value) (.boolean j value)
  | null (i j : ObjectId) : SameValue (.null i) (.null j)
  | function (i : ObjectId) (f : Function) : SameValue (.function i f) (.function i f)

variable {a b c : Object}

theorem SameValue.refl (ordinary : a.isSignal = false) : a.SameValue a := by
  cases a with
  | integer id value => exact .integer id id value
  | boolean id value => exact .boolean id id value
  | string id text => exact .string id id text
  | null id => exact .null id id
  | returnValue id inner => contradiction
  | error id cause => contradiction
  | function id f => exact .function id f

theorem SameValue.symm (same : a.SameValue b) : b.SameValue a := by
  cases same with
  | integer i j value => exact .integer j i value
  | string i j text => exact .string j i text
  | boolean i j value => exact .boolean j i value
  | null i j => exact .null j i
  | function i f => exact .function i f

theorem SameValue.trans (first : a.SameValue b) (second : b.SameValue c) : a.SameValue c := by
  cases first with
  | integer i j value => cases second; exact .integer ..
  | string i j text => cases second; exact .string ..
  | boolean i j value => cases second; exact .boolean ..
  | null i j => cases second; exact .null ..
  | function i f => exact second

theorem SameValue.same (same : a.SameValue b) : a.same b = true := by
  cases same with
  | integer | string | boolean | function => exact beq_self_eq_true _
  | null => rfl

/-- The converse holds of all but functions, which may have the same text and scope. -/
theorem sameValue_of_same (ordinary : a.isSignal = false)
    (apart : ¬(a.type = .function ∧ b.type = .function)) (same : a.same b = true) :
    a.SameValue b := by
  cases a <;> cases b <;> simp only [Object.same, beq_iff_eq, Bool.false_eq_true] at same
  case integer.integer i v j w => exact same ▸ .integer i j v
  case boolean.boolean i v j w => exact same ▸ .boolean i j v
  case string.string i v j w => exact same ▸ .string i j v
  case null.null i j => exact .null i j
  case returnValue.returnValue => contradiction
  case error.error => contradiction
  case function.function => exact absurd ⟨rfl, rfl⟩ apart

theorem eq_of_sameValue (canonical : a.Canonical) (canonical' : b.Canonical)
    (apart : Eval.Apart a b) (same : a.SameValue b) : a = b := by
  cases same with
  | integer | string => simp [Eval.Apart, Object.type] at apart
  | boolean i j value => exact canonical.trans canonical'.symm
  | null i j => exact canonical.trans canonical'.symm
  | function i f => rfl

structure Compares (a b : Object) (answer : Bool) : Prop where
  equal : ∀ store, Eval.applyBinary .equal a b store = (.ok (.ofBool answer), store)
  notEqual : ∀ store, Eval.applyBinary .notEqual a b store = (.ok (.ofBool (!answer)), store)

theorem Compares.unique {answer other : Bool} (first : a.Compares b answer)
    (second : a.Compares b other) : answer = other := by
  have same := (first.equal .empty).symm.trans (second.equal .empty)
  cases answer <;> cases other <;> first | rfl | cases same

end Object

namespace Register.Sound

variable {register : Register} {a b : Object}

theorem identical_iff (sound : register.Sound) (first : register.objects a)
    (second : register.objects b) : a.identical b = true ↔ a = b := by
  rw [Object.identical, beq_iff_eq]
  constructor
  · exact sound.unique a b first second
  · exact congrArg Object.id

theorem compares (sound : register.Sound) (first : register.objects a)
    (second : register.objects b) (ordinary : a.isSignal = false) :
    ∃ answer, a.Compares b answer ∧ (answer = true ↔ a.SameValue b) := by
  cases Eval.operands a b with
  | integers i j x y =>
    refine ⟨x = y, ⟨fun _ => rfl, fun store => ?_⟩, ?_⟩
    · rw [← decide_not]
      rfl
    · rw [decide_eq_true_iff]
      exact ⟨fun same => same ▸ .integer i j x, fun same => by cases same; rfl⟩
  | strings i j x y =>
    refine ⟨x = y, ⟨fun _ => rfl, fun store => ?_⟩, ?_⟩
    · rw [← decide_not]
      rfl
    · rw [decide_eq_true_iff]
      exact ⟨fun same => same ▸ .string i j x, fun same => by cases same; rfl⟩
  | others apart =>
    refine ⟨a.identical b, ⟨fun store => ?_, fun store => ?_⟩, ?_⟩
    · rw [Eval.applyBinary_of_apart apart]
      rfl
    · rw [Eval.applyBinary_of_apart apart]
      rfl
    · rw [sound.identical_iff first second]
      constructor
      · rintro rfl
        exact .refl ordinary
      · exact Object.eq_of_sameValue (sound.canonical a first) (sound.canonical b second) apart

theorem compares_true_iff (sound : register.Sound) (first : register.objects a)
    (second : register.objects b) (ordinary : a.isSignal = false) :
    a.Compares b true ↔ a.SameValue b := by
  obtain ⟨answer, compares, means⟩ := sound.compares first second ordinary
  rw [← means]
  constructor
  · exact fun equal => compares.unique equal
  · rintro rfl
    exact compares

end Register.Sound

namespace Session

structure HasValue (session : Session) (object : Object) : Prop where
  has : session.Has object
  ordinary : object.isSignal = false

/-- In each session, booleans and `null` are the ones that exist once. So `==` of two ordinary
values always gives an answer, and says whether both are integers of one value, strings of one text,
the same boolean, `null`, or one and the same function; `!=` gives the opposite. It is an equivalence,
and implies equality of content, which differs for pairs of functions only. -/
theorem equality_is_value_equality {session : Session} (reached : session.Reached) :
    (∀ id value, session.Has (.boolean id value) → Object.boolean id value = .ofBool value) ∧
      (∀ id, session.Has (.null id) → Object.null id = .theNull) ∧
      (∀ a b, session.HasValue a → session.HasValue b →
        ∃ answer, a.Compares b answer ∧ (answer = true ↔ a.SameValue b) ∧
          (answer = true → a.same b = true) ∧
          (¬(a.type = .function ∧ b.type = .function) → a.same b = true → answer = true)) ∧
      (∀ a, session.HasValue a → a.Compares a true) ∧
      (∀ a b, session.HasValue a → session.HasValue b → a.Compares b true → b.Compares a true) ∧
      ∀ a b c, session.HasValue a → session.HasValue b → session.HasValue c →
        a.Compares b true → b.Compares c true → a.Compares c true := by
  obtain ⟨register, registered⟩ := reached.registered
  have sound := registered.sound
  -- `==` says whether two values are the same, so it is an equivalence because that is
  have equal_iff {a b : Object} (first : session.HasValue a) (second : session.HasValue b) :
      a.Compares b true ↔ a.SameValue b :=
    sound.compares_true_iff (registered.has first.has) (registered.has second.has) first.ordinary
  refine ⟨?_, ?_, ?_, ?_, ?_, ?_⟩
  · intro id value has
    exact sound.canonical _ (registered.has has)
  · intro id has
    exact sound.canonical _ (registered.has has)
  · intro a b first second
    obtain ⟨answer, compares, means⟩ :=
      sound.compares (registered.has first.has) (registered.has second.has) first.ordinary
    refine ⟨answer, compares, means, ?_, ?_⟩
    · exact fun equal => (means.1 equal).same
    · intro apart same
      exact means.2 (Object.sameValue_of_same first.ordinary apart same)
  · intro a first
    exact (equal_iff first first).2 (.refl first.ordinary)
  · intro a b first second equal
    exact (equal_iff second first).2 ((equal_iff first second).1 equal).symm
  · intro a b c first second third equal equal'
    have same := (equal_iff first second).1 equal
    exact (equal_iff first third).2 (same.trans ((equal_iff second third).1 equal'))

def twin (id : ObjectId) : Object := .function id ⟨["x"], [.exprStmt (.ident "x")], 0⟩

def twins : Session := ⟨⟨#[⟨[], none⟩], 5⟩, [twin 4, twin 3]⟩

theorem reached_twins : twins.Reached := by
  have opened : Reached ⟨.initial, []⟩ := .tail .refl (.openScope nofun)
  have again (id : ObjectId) (held : List Object) :
      Step ⟨⟨#[⟨[], none⟩], id⟩, held⟩ ⟨⟨#[⟨[], none⟩], id + 1⟩, twin id :: held⟩ := by
    have known : Knows ⟨⟨#[⟨[], none⟩], id⟩, held⟩ 0 := Nat.zero_lt_one
    exact .evaluate 0 0 known (.expression (.fn ["x"] [.exprStmt (.ident "x")])) rfl
  exact .tail (.tail opened (again 3 [])) (again 4 [twin 3])

theorem twins_are_told_apart :
    twins.Reached ∧ twins.HasValue (twin 3) ∧ twins.HasValue (twin 4) ∧
      (twin 3).same (twin 4) = true ∧ (twin 3).Compares (twin 4) false ∧
      (twin 3).Compares (twin 3) true := by
  have first : twins.HasValue (twin 3) := ⟨.held (by simp [twins]), rfl⟩
  have second : twins.HasValue (twin 4) := ⟨.held (by simp [twins]), rfl⟩
  obtain ⟨-, -, answers, itself, -⟩ := equality_is_value_equality reached_twins
  obtain ⟨answer, compares, means, -⟩ := answers _ _ first second
  have differs : answer = false := by
    rw [Bool.eq_false_iff, Ne, means]
    intro same
    cases same
  exact ⟨reached_twins, first, second, by decide, differs ▸ compares, itself _ first⟩

end Session

end Monkey
