/-!
Decimal numerals for 64-bit signed integers. A numeral is an optional sign and at least one digit.
Digits are read left to right, and the first fault met is the one reported.
-/
namespace Monkey.Numeral

inductive Fault
  | empty
  | invalidDigit
  | tooLarge
  | tooSmall
  deriving DecidableEq, Repr

def Fault.message : Fault → String
  | .empty => "cannot parse integer from empty string"
  | .invalidDigit => "invalid digit found in string"
  | .tooLarge => "number too large to fit in target type"
  | .tooSmall => "number too small to fit in target type"

def digitValue (c : Char) : Nat := c.toNat - '0'.toNat

/-- Reads on from `value`, the number that the digits so far stand for. A number beyond `bound` is
the fault `beyond`. -/
def magnitude (bound : Nat) (beyond : Fault) (value : Nat) : List Char → Except Fault Nat
  | [] => .ok value
  | c :: digits =>
    if c.isDigit then
      let next := 10 * value + digitValue c
      if next ≤ bound then magnitude bound beyond next digits else .error beyond
    else .error .invalidDigit

def readUnsigned (digits : List Char) : Except Fault Int64 :=
  (magnitude 0x7FFFFFFFFFFFFFFF .tooLarge 0 digits).map Int64.ofNat

def readNegated (digits : List Char) : Except Fault Int64 :=
  (magnitude 0x8000000000000000 .tooSmall 0 digits).map fun n => Int64.ofInt (-n)

def readChars : List Char → Except Fault Int64
  | [] => .error .empty
  | ['+'] => .error .invalidDigit
  | ['-'] => .error .invalidDigit
  | '+' :: digits => readUnsigned digits
  | '-' :: digits => readNegated digits
  | digits => readUnsigned digits

def read (text : String) : Except Fault Int64 := readChars text.toList

/-- The numeral without superfluous zeros, with a sign only where it is needed. -/
def write (value : Int64) : String :=
  if value.toInt < 0 then "-" ++ Nat.repr value.toInt.natAbs
  else Nat.repr value.toInt.natAbs

end Monkey.Numeral
