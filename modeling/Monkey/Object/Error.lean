import Monkey.Program.Basic
import Monkey.Text.Quoted

/-! The types of object, and what can go wrong while a program runs. -/
namespace Monkey

inductive ObjectType
  | integer
  | boolean
  | string
  | null
  | returnValue
  | error
  | function
  deriving DecidableEq, Repr

def ObjectType.tag : ObjectType → String
  | .integer => "INTEGER"
  | .boolean => "BOOLEAN"
  | .string => "STRING"
  | .null => "NULL"
  | .returnValue => "RETURN_VALUE"
  | .error => "ERROR"
  | .function => "FUNCTION"

def ObjectType.name : ObjectType → String
  | .integer => "Integer"
  | .boolean => "Boolean"
  | .string => "String"
  | .null => "Null"
  | .returnValue => "ReturnValue"
  | .error => "Error"
  | .function => "Function"

inductive EvalError
  | typeMismatch (left right : ObjectType) (op : BinaryOp)
  | unknownBinary (left right : ObjectType) (op : BinaryOp)
  | unknownUnary (right : ObjectType) (op : UnaryOp)
  | unknownIdentifier (name : String)
  | callNonFunction (type : ObjectType)
  | wrongArgumentCount (expected actual : Nat)
  | divisionByZero
  deriving DecidableEq, Repr

namespace EvalError

def message : EvalError → String
  | typeMismatch left right op =>
    "type mismatch: " ++ left.tag ++ " " ++ op.symbol ++ " " ++ right.tag
  | unknownBinary left right op =>
    "unknown operator: " ++ left.tag ++ " " ++ op.symbol ++ " " ++ right.tag
  | unknownUnary right op => "unknown operator: " ++ op.symbol ++ right.tag
  | unknownIdentifier name => "identifier not found: " ++ name
  | callNonFunction type => "not a function: " ++ type.tag
  | wrongArgumentCount expected actual =>
    "wrong number of arguments: expected " ++ Nat.repr expected ++ ", got " ++ Nat.repr actual
  | divisionByZero => "division by zero"

def name : EvalError → String
  | typeMismatch .. => "TypeMismatch"
  | unknownBinary .. => "UnknownInfixOperator"
  | unknownUnary .. => "UnknownPrefixOperator"
  | unknownIdentifier _ => "UnknownIdentifier"
  | callNonFunction _ => "CallNonFunction"
  | wrongArgumentCount .. => "WrongArgumentCount"
  | divisionByZero => "DivisionByZero"

def dump (error : EvalError) : String :=
  error.name ++
    match error with
    | typeMismatch left right op | unknownBinary left right op =>
      " \x7b left: " ++ left.name ++ ", right: " ++ right.name ++ ", operation: " ++ op.name ++
        " \x7d"
    | unknownUnary right op =>
      " \x7b right: " ++ right.name ++ ", operation: " ++ op.name ++ " \x7d"
    | unknownIdentifier name => "(" ++ Text.quoted name ++ ")"
    | callNonFunction type => "(" ++ type.name ++ ")"
    | wrongArgumentCount expected actual =>
      " \x7b expected: " ++ Nat.repr expected ++ ", actual: " ++ Nat.repr actual ++ " \x7d"
    | divisionByZero => ""

end EvalError

end Monkey
