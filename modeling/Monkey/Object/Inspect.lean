import Monkey.Object.Basic
import Monkey.Program.Render

/-! How objects are shown: to the user of a program, and in full. -/
namespace Monkey

def Function.inspect (function : Function) : String :=
  "fn(" ++ String.intercalate ", " function.parameters ++ ") " ++ Block.render function.body

def Function.dump (function : Function) : String :=
  "Function \x7b parameters: [" ++
    String.intercalate ", "
      (function.parameters.map fun name => "Identifier \x7b name: " ++ Text.quoted name ++ " \x7d") ++
    "], body: " ++ Text.quoted (Block.render function.body) ++ ", .. \x7d"

namespace Object

def inspect : Object → String
  | integer _ value => Numeral.write value
  | boolean _ true => "true"
  | boolean _ false => "false"
  | string _ text => text
  | null _ => "null"
  | returnValue _ inner => inner.inspect
  | error _ cause => "ERROR: " ++ cause.message
  | function _ value => value.inspect

def dump : Object → String
  | integer _ value => "Integer(" ++ Numeral.write value ++ ")"
  | boolean _ true => "Boolean(true)"
  | boolean _ false => "Boolean(false)"
  | string _ text => "String(" ++ Text.quoted text ++ ")"
  | null _ => "Null"
  | returnValue _ inner => "ReturnValue(" ++ inner.dump ++ ")"
  | error _ cause => "Error(" ++ cause.dump ++ ")"
  | function _ value => "Function(" ++ value.dump ++ ")"

end Object

end Monkey
