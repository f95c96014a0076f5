import Monkey.Proofs.Eval.Steps

/-!
Arithmetic. A tree of numbers and operators has an exact value among the integers, and evaluation
wraps around at every operator on the way. Without division it makes no difference where that is
done: the exact value is wrapped around. Division is carried out on wrapped operands and drops the
fraction, and a divisor that is zero is the only thing that can go wrong.
-/
namespace Monkey

inductive ArithmeticOp
  | plus
  | minus
  | multiply
  | divide
  deriving DecidableEq

namespace ArithmeticOp

def binary : ArithmeticOp → BinaryOp
  | plus => .plus
  | minus => .minus
  | multiply => .multiply
  | divide => .divide

/-- Division goes towards zero. -/
def exact (a b : Int) : ArithmeticOp → Int
  | plus => a + b
  | minus => a - b
  | multiply => a * b
  | divide => a.tdiv b

end ArithmeticOp

/-- The integer from `-2 ^ 63` up to `2 ^ 63 - 1` that differs by a multiple of `2 ^ 64`. -/
def wrapped (n : Int) : Int := n.bmod Int64.size

inductive Arithmetic
  | number (value : Int64)
  | negation (operand : Arithmetic)
  | operation (op : ArithmeticOp) (left right : Arithmetic)

namespace Arithmetic

def expr : Arithmetic → Expr
  | number value => .int value
  | negation operand => .unary .minus operand.expr
  | operation op left right => .binary op.binary left.expr right.expr

def exact : Arithmetic → Int
  | number value => value.toInt
  | negation operand => -operand.exact
  | operation op left right => op.exact left.exact right.exact

/-- The value with every operator wrapping around. A tree that divides by zero has none. -/
def value? : Arithmetic → Option Int
  | number value => some value.toInt
  | negation operand => operand.value?.bind fun a => some (wrapped (-a))
  | operation op left right =>
    left.value?.bind fun a => right.value?.bind fun b =>
      if op = .divide ∧ b = 0 then none else some (wrapped (op.exact a b))

def DivisionFree : Arithmetic → Prop
  | number _ => True
  | negation operand => operand.DivisionFree
  | operation op left right => op ≠ .divide ∧ left.DivisionFree ∧ right.DivisionFree

def subtrees : Arithmetic → List Arithmetic
  | number value => [number value]
  | negation operand => negation operand :: operand.subtrees
  | operation op left right => operation op left right :: (left.subtrees ++ right.subtrees)

/-- Wrapping around early changes nothing unless there is a division in between. -/
theorem value?_of_divisionFree {tree : Arithmetic} (free : tree.DivisionFree) :
    tree.value? = some (wrapped tree.exact) := by
  induction tree with
  | number value =>
    have inside : wrapped value.toInt = value.toInt := Int64.toInt_bmod value
    rw [value?, exact, inside]
  | negation operand ih =>
    rw [value?, ih free, exact, Option.bind_some, wrapped, wrapped, wrapped, Int.bmod_neg_bmod]
  | operation op left right leftIh rightIh =>
    obtain ⟨other, leftFree, rightFree⟩ := free
    -- each operator but division respects residues, so wrapped operands give the same residue
    have same : wrapped (op.exact (wrapped left.exact) (wrapped right.exact)) =
        wrapped (op.exact left.exact right.exact) := by
      unfold wrapped
      cases op with
      | plus => rw [ArithmeticOp.exact, ArithmeticOp.exact, Int.bmod_add_bmod, Int.add_bmod_bmod]
      | minus => rw [ArithmeticOp.exact, ArithmeticOp.exact, Int.bmod_sub_bmod, Int.sub_bmod_bmod]
      | multiply =>
        rw [ArithmeticOp.exact, ArithmeticOp.exact, Int.bmod_mul_bmod, Int.mul_bmod_bmod]
      | divide => exact absurd rfl other
    simp only [value?, leftIh leftFree, rightIh rightFree, Option.bind_some, other, false_and,
      if_false, same, exact]

theorem value?_eq_none_iff {tree : Arithmetic} : tree.value? = none ↔
    ∃ dividend divisor, operation .divide dividend divisor ∈ tree.subtrees ∧
      divisor.value? = some 0 := by
  induction tree with
  | number value => simp [value?, subtrees]
  | negation operand ih =>
    have through : (negation operand).value? = none ↔ operand.value? = none := by
      rw [value?]
      cases operand.value? <;> simp
    rw [through, ih]
    simp [subtrees]
  | operation op left right leftIh rightIh =>
    have split : (operation op left right).value? = none ↔
        (op = .divide ∧ right.value? = some 0) ∨ left.value? = none ∨ right.value? = none := by
      rw [value?]
      cases left.value? <;> cases right.value? <;> simp
    rw [split, leftIh, rightIh]
    constructor
    · rintro (⟨rfl, zero⟩ | ⟨dividend, divisor, here, zero⟩ | ⟨dividend, divisor, here, zero⟩)
      · exact ⟨left, right, List.mem_cons_self, zero⟩
      · exact ⟨dividend, divisor, List.mem_cons_of_mem _ (List.mem_append_left _ here), zero⟩
      · exact ⟨dividend, divisor, List.mem_cons_of_mem _ (List.mem_append_right _ here), zero⟩
    · rintro ⟨dividend, divisor, here, zero⟩
      rcases List.mem_cons.1 here with same | here
      · cases same
        exact .inl ⟨rfl, zero⟩
      rcases List.mem_append.1 here with here | here
      · exact .inr (.inl ⟨dividend, divisor, here, zero⟩)
      · exact .inr (.inr ⟨dividend, divisor, here, zero⟩)

/-- The one quotient of two numbers that does not fit has a value all the same. -/
example : (operation .divide (number Int64.minValue) (number (-1))).value? = some (-2 ^ 63) := by
  decide

/-- How a step ends that computes an integer or, if it computes none, divides by zero. -/
inductive Gives : Option Int → Except Signal Object → Prop
  | number (id : ObjectId) (value : Int64) : Gives (some value.toInt) (.ok (.integer id value))
  | zeroDivided : Gives none (.error (.failed .divisionByZero))

def Computes (found : Option Int) (step : Eval Object) : Prop :=
  ∀ store, Gives found (step store).1 ∧ (step store).2.scopes = store.scopes

theorem Computes.bind {found : Option Int} {step : Eval Object} {answer : Int → Option Int}
    {next : Object → Eval Object} (first : Computes found step)
    (rest : ∀ id value, Computes (answer value.toInt) (next (.integer id value))) :
    Computes (found.bind answer) (step >>= next) := by
  intro store
  obtain ⟨gives, scopes⟩ := first store
  generalize result : step store = reached at gives scopes
  obtain ⟨outcome, later⟩ := reached
  cases gives with
  | number id value =>
    rw [Eval.bind_of_ok result]
    obtain ⟨gives, scopes'⟩ := rest id value later
    exact ⟨gives, scopes'.trans scopes⟩
  | zeroDivided =>
    rw [Eval.bind_of_error result]
    exact ⟨.zeroDivided, scopes⟩

theorem computes_integer {value : Int64} {n : Int} (same : value.toInt = n) :
    Computes (some n) (Eval.integer value) :=
  fun store => same ▸ ⟨.number store.nextId value, rfl⟩

theorem computes_operation (op : ArithmeticOp) (a b : Int64) :
    Computes
      (if op = .divide ∧ b.toInt = 0 then none else some (wrapped (op.exact a.toInt b.toInt)))
      (Eval.applyToIntegers op.binary a b) := by
  cases op with
  | plus => exact computes_integer (Int64.toInt_add a b)
  | minus => exact computes_integer (Int64.toInt_sub a b)
  | multiply => exact computes_integer (Int64.toInt_mul a b)
  | divide =>
    have zero : b = 0 ↔ b.toInt = 0 := by rw [← Int64.toInt_inj, Int64.toInt_zero]
    by_cases here : b = 0
    · rw [if_pos ⟨rfl, zero.1 here⟩]
      simp only [ArithmeticOp.binary, Eval.applyToIntegers, here, if_true]
      exact fun _ => ⟨.zeroDivided, rfl⟩
    · rw [if_neg fun both => here (zero.2 both.2)]
      simp only [ArithmeticOp.binary, Eval.applyToIntegers, here, if_false]
      exact computes_integer (Int64.toInt_div a b)

variable {call : Eval.Call} {scope : ScopeId}

theorem computes_expression (tree : Arithmetic) :
    Computes tree.value? (Eval.expression call scope tree.expr) := by
  induction tree with
  | number value => exact computes_integer rfl
  | negation operand ih =>
    apply ih.bind
    intro id value
    exact computes_integer (Int64.toInt_neg value)
  | operation op left right leftIh rightIh =>
    apply leftIh.bind
    intro i a
    apply rightIh.bind
    intro j b
    exact computes_operation op a b

def evaluated (depth : Nat) (scope : ScopeId) (store : Store) (tree : Arithmetic) :
    Option Object × Store :=
  Eval.node depth scope (.expression tree.expr) store

theorem evaluated_cases (depth : Nat) (scope : ScopeId) (store : Store) (tree : Arithmetic) :
    ((∃ id value, (evaluated depth scope store tree).1 = some (.integer id value) ∧
        tree.value? = some value.toInt) ∨
      ∃ id, (evaluated depth scope store tree).1 = some (.error id .divisionByZero) ∧
        tree.value? = none) ∧
    (evaluated depth scope store tree).2.scopes = store.scopes := by
  obtain ⟨gives, scopes⟩ := @computes_expression (Eval.apply depth) scope tree store
  rw [evaluated, Eval.node]
  generalize Eval.expression (Eval.apply depth) scope tree.expr store = step at gives scopes
  obtain ⟨outcome, later⟩ := step
  generalize tree.value? = found at gives
  cases gives with
  | number id value => exact ⟨.inl ⟨id, value, rfl, rfl⟩, scopes⟩
  | zeroDivided => exact ⟨.inr ⟨later.nextId, rfl, rfl⟩, scopes⟩

variable {depth : Nat} {store : Store} {tree : Arithmetic}

theorem evaluated_to_iff {value : Int64} :
    (∃ id, (evaluated depth scope store tree).1 = some (.integer id value)) ↔
      tree.value? = some value.toInt := by
  rcases (evaluated_cases depth scope store tree).1 with
    ⟨id, other, here, found⟩ | ⟨id, here, found⟩
  · rw [here, found]
    simp [Int64.toInt_inj]
  · rw [here, found]
    simp

theorem zero_divided_iff :
    (∃ id, (evaluated depth scope store tree).1 = some (.error id .divisionByZero)) ↔
      tree.value? = none := by
  rcases (evaluated_cases depth scope store tree).1 with
    ⟨id, other, here, found⟩ | ⟨id, here, found⟩
  · rw [here, found]
    simp
  · rw [here, found]
    simp

/-- Wherever a tree without division is evaluated, it gives the integer that is its exact value
wrapped around. A tree with divisions fails, by division by zero, exactly if a divisor in it gives
zero, and otherwise gives its value with every operator wrapping around. Scopes stay as they are. -/
theorem arithmetic_is_exact_but_for_wrapping (tree : Arithmetic) (depth : Nat) (scope : ScopeId)
    (store : Store) :
    (tree.DivisionFree → ∃ id value,
      (evaluated depth scope store tree).1 = some (.integer id value) ∧
        value.toInt = wrapped tree.exact) ∧
    ((∃ id, (evaluated depth scope store tree).1 = some (.error id .divisionByZero)) ↔
      ∃ dividend divisor, operation .divide dividend divisor ∈ tree.subtrees ∧
        ∃ id, (evaluated depth scope store divisor).1 = some (.integer id 0)) ∧
    ((∃ id, (evaluated depth scope store tree).1 = some (.error id .divisionByZero)) ∨
      ∃ id value, (evaluated depth scope store tree).1 = some (.integer id value) ∧
        tree.value? = some value.toInt) ∧
    (evaluated depth scope store tree).2.scopes = store.scopes := by
  obtain ⟨either, scopes⟩ := evaluated_cases depth scope store tree
  refine ⟨?_, ?_, ?_, scopes⟩
  · intro free
    have whole := value?_of_divisionFree free
    rcases either with ⟨id, value, here, found⟩ | ⟨id, -, found⟩
    · rw [whole, Option.some.injEq] at found
      exact ⟨id, value, here, found.symm⟩
    · rw [whole] at found
      contradiction
  · simp only [zero_divided_iff, evaluated_to_iff, Int64.toInt_zero]
    exact value?_eq_none_iff
  · rcases either with value | ⟨id, here, -⟩
    · exact .inr value
    · exact .inl ⟨id, here⟩

/-- A sum that is `2 ^ 64` among the integers. -/
def turnedOver : Arithmetic :=
  operation .plus (operation .plus (number Int64.maxValue) (number Int64.maxValue)) (number 2)

theorem turnedOver_is_zero :
    turnedOver.DivisionFree ∧
      (∃ id value, (evaluated 0 0 .empty turnedOver).1 = some (.integer id value) ∧
        value.toInt = 0) ∧
      ∃ id, (evaluated 0 0 .empty (operation .divide (number 1) turnedOver)).1 =
        some (.error id .divisionByZero) := by
  have free : turnedOver.DivisionFree := by simp [turnedOver, DivisionFree]
  have whole : wrapped turnedOver.exact = 0 := by decide
  obtain ⟨gives, -⟩ := arithmetic_is_exact_but_for_wrapping turnedOver 0 0 .empty
  obtain ⟨-, zero, -⟩ := arithmetic_is_exact_but_for_wrapping
    (operation .divide (number 1) turnedOver) 0 0 .empty
  obtain ⟨id, value, here, same⟩ := gives free
  rw [whole] at same
  have zeroValue : value = 0 := Int64.toInt_inj.1 (same.trans Int64.toInt_zero.symm)
  exact ⟨free, ⟨id, value, here, same⟩,
    zero.2 ⟨number 1, turnedOver, List.mem_cons_self, id, zeroValue ▸ here⟩⟩

end Arithmetic

end Monkey
