import Monkey.Numeral
import Monkey.Program.Basic

/-!
Programs as text. Every operation stands in parentheses, so the tree can be seen from the text
without knowing how strongly operators bind.
-/
namespace Monkey

def braced (statements : List String) : String :=
  "\x7b" ++ String.intercalate " " statements ++ "\x7d"

mutual

def Expr.render : Expr → String
  | .ident name => name
  | .int value => Numeral.write value
  | .string contents => "\"" ++ contents ++ "\""
  | .bool true => "true"
  | .bool false => "false"
  | .unary op operand => "(" ++ op.symbol ++ operand.render ++ ")"
  | .binary op left right => "(" ++ left.render ++ " " ++ op.symbol ++ " " ++ right.render ++ ")"
  | .cond test consequence none =>
    "if " ++ test.render ++ " " ++ braced (renderAll consequence)
  | .cond test consequence (some alternative) =>
    "if " ++ test.render ++ " " ++ braced (renderAll consequence) ++ " else " ++
      braced (renderAll alternative)
  | .fn parameters body =>
    "fn(" ++ String.intercalate ", " parameters ++ ") " ++ braced (renderAll body)
  | .call callee arguments =>
    callee.render ++ "(" ++ String.intercalate ", " (renderEach arguments) ++ ")"
termination_by structural e => e

def Stmt.render : Stmt → String
  | .letStmt name value => "let " ++ name ++ " = " ++ value.render ++ ";"
  | .returnStmt value => "return " ++ value.render ++ ";"
  | .exprStmt value => value.render ++ ";"
termination_by structural s => s

def renderAll : List Stmt → List String
  | [] => []
  | statement :: statements => statement.render :: renderAll statements
termination_by structural ss => ss

def renderEach : List Expr → List String
  | [] => []
  | argument :: arguments => argument.render :: renderEach arguments
termination_by structural es => es

end

def Block.render (block : Block) : String := braced (renderAll block)

def Program.render (program : Program) : String :=
  String.join ((renderAll program).map (· ++ "\n"))

end Monkey
