import Monkey.Eval.Basic

/-! The operators. Integer arithmetic wraps around at 64 bits, and division drops the fraction. -/
namespace Monkey.Eval

def applyUnary : UnaryOp → Object → Eval Object
  | .bang, right => boolean (!right.isTruthy)
  | .minus, .integer _ value => integer (-value)
  | .minus, right => fail (.unknownUnary right.type .minus)

def applyToIntegers (op : BinaryOp) (left right : Int64) : Eval Object :=
  match op with
  | .plus => integer (left + right)
  | .minus => integer (left - right)
  | .multiply => integer (left * right)
  | .divide => if right = 0 then fail .divisionByZero else integer (left / right)
  | .lessThan => boolean (left < right)
  | .greaterThan => boolean (right < left)
  | .equal => boolean (left = right)
  | .notEqual => boolean (left ≠ right)

def applyToStrings (op : BinaryOp) (left right : String) : Eval Object :=
  match op with
  | .plus => string (left ++ right)
  | .equal => boolean (left = right)
  | .notEqual => boolean (left ≠ right)
  | _ => fail (.unknownBinary .string .string op)

/-- Integers and strings are compared by content. Other objects are equal when they are the same
object, which for `null`, `true` and `false` comes to the same. -/
def applyBinary (op : BinaryOp) (left right : Object) : Eval Object :=
  match left, right with
  | .integer _ a, .integer _ b => applyToIntegers op a b
  | .string _ a, .string _ b => applyToStrings op a b
  | _, _ =>
    match op with
    | .equal => boolean (left.identical right)
    | .notEqual => boolean (!left.identical right)
    | _ =>
      if left.type ≠ right.type then fail (.typeMismatch left.type right.type op)
      else fail (.unknownBinary left.type right.type op)

end Monkey.Eval
