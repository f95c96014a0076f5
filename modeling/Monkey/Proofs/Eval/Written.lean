import Monkey.Proofs.Eval.Bookkeeping
import Monkey.Proofs.Scope.Binding

/-!
What programs are written of. If what is evaluated is made of certain expressions and statements,
and so are the functions that names are bound to, then so is every function that the evaluation makes
and binds. And if it fails, the error that it reports is a truthful one.
-/
namespace Monkey

variable {p : Expr → Prop} {q : Stmt → Prop}

namespace EvalError

def types : EvalError → List ObjectType
  | typeMismatch left right _ => [left, right]
  | unknownBinary left right _ => [left, right]
  | unknownUnary right _ => [right]
  | unknownIdentifier _ => []
  | callNonFunction type => [type]
  | wrongArgumentCount .. => []
  | divisionByZero => []

/-- What the error complains of is an error indeed. The names that can be missing are `Named`. -/
def Justified (Named : String → Prop) : EvalError → Prop
  | typeMismatch left right op => left ≠ right ∧ op ≠ .equal ∧ op ≠ .notEqual
  | unknownBinary left right op =>
    left = right ∧ left ≠ .integer ∧ op ≠ .equal ∧ op ≠ .notEqual ∧ (left = .string → op ≠ .plus)
  | unknownUnary right op => op = .minus ∧ right ≠ .integer
  | unknownIdentifier name => Named name
  | callNonFunction type => type ≠ .function
  | wrongArgumentCount expected actual => expected ≠ actual
  | divisionByZero => True

structure Truthful (Named : String → Prop) (cause : EvalError) : Prop where
  justified : cause.Justified Named
  ordinary : ∀ type ∈ cause.types, type ≠ .returnValue ∧ type ≠ .error

end EvalError

/-- An ordinary value. If it is a function, its text is made of such expressions and statements. -/
def Object.Written (p : Expr → Prop) (q : Stmt → Prop) : Object → Prop
  | .function _ f => (Expr.fn f.parameters f.body).Throughout p q
  | .returnValue .. | .error .. => False
  | .integer .. | .boolean .. | .string .. | .null _ => True

theorem Object.Written.ordinary : ∀ {value : Object}, value.Written p q →
    value.type ≠ .returnValue ∧ value.type ≠ .error
  | .returnValue .., written => written.elim
  | .error .., written => written.elim
  | .integer .., _ | .boolean .., _ | .string .., _ | .null _, _ | .function .., _ => by
    simp [Object.type]

theorem Object.written_theNull : Object.theNull.Written p q := trivial

theorem Object.written_ofBool (value : Bool) : (Object.ofBool value).Written p q := by
  cases value <;> trivial

def Store.Written (p : Expr → Prop) (q : Stmt → Prop) (store : Store) : Prop :=
  ∀ value, store.Binds value → value.Written p q

namespace Store.Written

variable {store : Store}

theorem counted (written : store.Written p q) :
    Store.Written p q { store with nextId := store.nextId + 1 } :=
  written

theorem openScope (written : store.Written p q) (outer : Option ScopeId) :
    (store.openScope outer).2.Written p q :=
  fun value binds => written value (binds_of_openScope binds)

theorem set (written : store.Written p q) {value : Object} (fits : value.Written p q)
    (scope : ScopeId) (name : String) : (store.set scope name value).Written p q := by
  intro other binds
  rcases binds_of_set binds with rfl | before
  · exact fits
  · exact written other before

end Store.Written

def Bookkeeping.text (p : Expr → Prop) (q : Stmt → Prop) : Bookkeeping Store where
  store := id
  Holds _ store := store.Written p q
  Changes _ _ _ := True
  Fits _ value := value.Written p q
  OfExpr := p
  OfStmt := q
  unchanged _ _ := trivial
  changes_trans _ _ := trivial
  fits_later _ fits := fits
  created written makes := by
    refine ⟨_, rfl, written.counted, trivial, ?_⟩
    cases makes with
    | integer | string => trivial
    | function text => exact text
  null _ := Object.written_theNull
  boolean _ := Object.written_ofBool
  found written found := written _ (Store.binds_of_get? found)
  bound written fits name := ⟨_, rfl, written.set fits _ name, trivial⟩
  written fits := fits.2
  entered written _ := ⟨_, rfl, written.openScope _, fun _ after _ => ⟨after, trivial⟩⟩

theorem EvalError.Raised.truthful {cause : EvalError}
    (raised : cause.Raised (Object.Written p q) p) :
    cause.Truthful fun name => p (.ident name) := by
  cases raised with
  | typeMismatch left right differ notEqual notNotEqual =>
    exact ⟨⟨differ, notEqual, notNotEqual⟩, by simpa [types] using ⟨left.ordinary, right.ordinary⟩⟩
  | unknownBinary left right alike noInteger notEqual notNotEqual noSum =>
    exact ⟨⟨alike, noInteger, notEqual, notNotEqual, noSum⟩,
      by simpa [types] using ⟨left.ordinary, right.ordinary⟩⟩
  | unknownUnary fits noInteger => exact ⟨⟨rfl, noInteger⟩, by simpa [types] using fits.ordinary⟩
  | unknownIdentifier asked => exact ⟨asked, by simp [types]⟩
  | callNonFunction fits noFunction => exact ⟨noFunction, by simpa [types] using fits.ordinary⟩
  | wrongArgumentCount differ => exact ⟨differ, by simp [types]⟩
  | divisionByZero => exact ⟨trivial, by simp [types]⟩

theorem Eval.written_run {store : Store} (depth : Nat) (scope : ScopeId) {node : Node}
    (text : node.Throughout p q) (written : store.Written p q) :
    (Bookkeeping.text p q).Ends scope store (Eval.run (apply depth) scope node store).2
      (fun _ value => value.Written p q) (Eval.run (apply depth) scope node store) := by
  obtain ⟨later, ends⟩ := (Bookkeeping.text p q).kept_run depth scope text written
  obtain rfl : later = (Eval.run (apply depth) scope node store).2 := ends.store
  exact ends

end Monkey
