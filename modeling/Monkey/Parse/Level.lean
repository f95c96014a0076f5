import Monkey.Program.Basic
import Monkey.Token.Kind

/-! How strongly operators bind, and which tokens continue an expression. -/
namespace Monkey

inductive Level
  | lowest
  | equality
  | comparison
  | sum
  | product
  | unary
  | call
  deriving DecidableEq, Repr

def Level.strength : Level → Nat
  | .lowest => 0
  | .equality => 1
  | .comparison => 2
  | .sum => 3
  | .product => 4
  | .unary => 5
  | .call => 6

instance : LT Level := ⟨fun a b => a.strength < b.strength⟩

instance : LE Level := ⟨fun a b => a.strength ≤ b.strength⟩

instance (a b : Level) : Decidable (a < b) := inferInstanceAs (Decidable (a.strength < b.strength))

instance (a b : Level) : Decidable (a ≤ b) := inferInstanceAs (Decidable (a.strength ≤ b.strength))

def BinaryOp.level : BinaryOp → Level
  | .equal => .equality
  | .notEqual => .equality
  | .lessThan => .comparison
  | .greaterThan => .comparison
  | .plus => .sum
  | .minus => .sum
  | .multiply => .product
  | .divide => .product

def BinaryOp.ofKind? : Token.Kind → Option BinaryOp
  | .equal => some .equal
  | .notEqual => some .notEqual
  | .lessThan => some .lessThan
  | .greaterThan => some .greaterThan
  | .plus => some .plus
  | .minus => some .minus
  | .asterisk => some .multiply
  | .slash => some .divide
  | _ => none

/-- What may follow a complete expression and make it a part of a longer one. -/
inductive Continuation
  | operator (op : BinaryOp)
  | arguments
  deriving DecidableEq, Repr

def Continuation.level : Continuation → Level
  | .operator op => op.level
  | .arguments => .call

def Continuation.ofKind? (kind : Token.Kind) : Option Continuation :=
  if kind = .lparen then some .arguments else (BinaryOp.ofKind? kind).map .operator

end Monkey
