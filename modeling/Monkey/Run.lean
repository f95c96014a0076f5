import Monkey.Eval.Entry
import Monkey.Object.Inspect
import Monkey.Parse.Parser

/-! Taking a source text through the stages, and what each of them prints. -/
namespace Monkey

inductive Stage
  | tokens
  | ast
  | eval
  deriving DecidableEq, Repr

inductive RunError
  | parse (errors : List ParseError)
  | evaluation (text : String)
  | tooDeep
  deriving DecidableEq

def callDepth : Nat := 1000000

def RunError.message : RunError → String
  | .parse errors =>
    "parsing failed:\n" ++ String.intercalate "\n" (errors.map fun error => "  " ++ error.message)
  | .evaluation text => text
  | .tooDeep => "calls are nested too deeply"

def tokenLine (token : Token) : String :=
  Nat.repr token.start ++ ".." ++ Nat.repr token.stop ++ " " ++ token.kind.dump ++ "\n"

def evaluate (depth : Nat) (program : Program) : Except RunError String :=
  let (scope, store) := Store.empty.openScope none
  match (Eval.program depth scope program store).1 with
  | none => .error .tooDeep
  | some (.error id cause) => .error (.evaluation (Object.error id cause).inspect)
  | some value => .ok (value.inspect ++ "\n")

def execute (depth : Nat) (source : String) : Stage → Except RunError String
  | .tokens => .ok (String.join ((lex source).map tokenLine))
  | .ast =>
    match parse source with
    | .error errors => .error (.parse errors)
    | .ok program => .ok (Program.render program)
  | .eval =>
    match parse source with
    | .error errors => .error (.parse errors)
    | .ok program => evaluate depth program

end Monkey
