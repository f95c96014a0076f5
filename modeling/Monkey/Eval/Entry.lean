import Monkey.Eval.Node

/-!
Evaluating a whole node. The result is an object: an error becomes an error object, and a return
that leaves the node becomes an object that holds the value. Only a program unwraps it.
-/
namespace Monkey

inductive Node
  | program (program : Program)
  | block (block : Block)
  | statement (statement : Stmt)
  | expression (expression : Expr)

namespace Eval

/-- The object that stands for an outcome. There is none if calls were nested too deeply. -/
def toObject? : Except Signal Object × Store → Option Object × Store
  | (.ok value, store) => (some value, store)
  | (.error (.returned value), store) =>
    let (object, store) := store.create (.returnValue · value)
    (some object, store)
  | (.error (.failed cause), store) =>
    let (object, store) := store.create (.error · cause)
    (some object, store)
  | (.error .exhausted, store) => (none, store)

def node (depth : Nat) (scope : ScopeId) : Node → Store → Option Object × Store
  | .program program, store => toObject? (catchReturn (block (apply depth) scope program) store)
  | .block statements, store => toObject? (block (apply depth) scope statements store)
  | .statement stmt, store => toObject? (statement (apply depth) scope stmt store)
  | .expression expr, store => toObject? (expression (apply depth) scope expr store)

def program (depth : Nat) (scope : ScopeId) (program : Program) : Store → Option Object × Store :=
  node depth scope (.program program)

end Eval

end Monkey
