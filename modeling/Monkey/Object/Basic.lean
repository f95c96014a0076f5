import Monkey.Object.Error
import Monkey.Program.Equality

/-!
Objects, the things that programs compute with. Each object has an identity besides its content:
two integers of one value are different objects, whereas `null`, `true` and `false` exist once.
-/
namespace Monkey

abbrev ObjectId := Nat

abbrev ScopeId := Nat

structure Function where
  parameters : List String
  body : Block
  scope : ScopeId
  deriving DecidableEq

inductive Object
  | integer (id : ObjectId) (value : Int64)
  | boolean (id : ObjectId) (value : Bool)
  | string (id : ObjectId) (text : String)
  | null (id : ObjectId)
  /-- A value on its way out of the function that returned it. -/
  | returnValue (id : ObjectId) (inner : Object)
  | error (id : ObjectId) (cause : EvalError)
  | function (id : ObjectId) (function : Function)
  deriving DecidableEq

namespace Object

def id : Object → ObjectId
  | integer id _ => id
  | boolean id _ => id
  | string id _ => id
  | null id => id
  | returnValue id _ => id
  | error id _ => id
  | function id _ => id

def theNull : Object := null 0

def ofBool : Bool → Object
  | true => boolean 1 true
  | false => boolean 2 false

/-- The identities below this one are those of `null`, `true` and `false`. -/
def firstFreeId : ObjectId := 3

def identical (a b : Object) : Bool := a.id == b.id

def type : Object → ObjectType
  | integer .. => .integer
  | boolean .. => .boolean
  | string .. => .string
  | null _ => .null
  | returnValue .. => .returnValue
  | error .. => .error
  | function .. => .function

def isTruthy : Object → Bool
  | boolean _ value => value
  | null _ => false
  | _ => true

def isError : Object → Bool
  | error .. => true
  | _ => false

/-- Equality of content, whatever the identities. Functions are equal when they have the same
parameters and body and were made in the same scope. -/
def same : Object → Object → Bool
  | integer _ a, integer _ b => a == b
  | boolean _ a, boolean _ b => a == b
  | string _ a, string _ b => a == b
  | null _, null _ => true
  | returnValue _ a, returnValue _ b => a.same b
  | error _ a, error _ b => a == b
  | function _ a, function _ b => a == b
  | _, _ => false

end Object

end Monkey
