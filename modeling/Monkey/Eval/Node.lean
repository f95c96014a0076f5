import Monkey.Eval.Operator

/-!
Evaluation of expressions and statements in a scope. Blocks share the scope around them; a call
opens a scope of its own inside the one that its function was made in. How calls are carried out is
a parameter here, and the depth to which they may be nested bounds them.
-/
namespace Monkey.Eval

abbrev Call := Function → List Object → Eval Object

mutual

def expression (call : Call) (scope : ScopeId) : Expr → Eval Object
  | .ident name => lookup scope name
  | .int value => integer value
  | .string contents => string contents
  | .bool value => boolean value
  | .unary op operand => do
    let right ← expression call scope operand
    applyUnary op right
  | .binary op left right => do
    let left ← expression call scope left
    let right ← expression call scope right
    applyBinary op left right
  | .cond test consequence none => do
    let chosen ← expression call scope test
    if chosen.isTruthy then statements call scope .theNull consequence else pure .theNull
  | .cond test consequence (some alternative) => do
    let chosen ← expression call scope test
    if chosen.isTruthy then statements call scope .theNull consequence
    else statements call scope .theNull alternative
  | .fn parameters body => create (.function · ⟨parameters, body, scope⟩)
  | .call callee arguments => do
    let callee ← expression call scope callee
    match callee with
    | .function _ function => do
      let given ← expressions call scope arguments
      call function given
    | other => fail (.callNonFunction other.type)
termination_by structural e => e

def expressions (call : Call) (scope : ScopeId) : List Expr → Eval (List Object)
  | [] => pure []
  | argument :: arguments => do
    let value ← expression call scope argument
    let values ← expressions call scope arguments
    pure (value :: values)
termination_by structural es => es

def statement (call : Call) (scope : ScopeId) : Stmt → Eval Object
  | .letStmt name value => do
    let value ← expression call scope value
    set scope name value
    pure .theNull
  | .returnStmt value => do
    let value ← expression call scope value
    signal (.returned value)
  | .exprStmt value => expression call scope value
termination_by structural s => s

/-- The value of the last statement, or `last` if there is none. -/
def statements (call : Call) (scope : ScopeId) (last : Object) : List Stmt → Eval Object
  | [] => pure last
  | first :: rest => do
    let value ← statement call scope first
    statements call scope value rest
termination_by structural ss => ss

end

def block (call : Call) (scope : ScopeId) (body : Block) : Eval Object :=
  statements call scope .theNull body

def bindAll (scope : ScopeId) : List (String × Object) → Eval Unit
  | [] => pure ()
  | (name, value) :: rest => do
    set scope name value
    bindAll scope rest

/-- Calls a function with calls nested at most `depth` deep. -/
def apply : (depth : Nat) → Call
  | 0, _, _ => signal .exhausted
  | depth + 1, function, arguments =>
    if function.parameters.length ≠ arguments.length then
      fail (.wrongArgumentCount function.parameters.length arguments.length)
    else do
      let scope ← openScope function.scope
      bindAll scope (function.parameters.zip arguments)
      catchReturn (block (apply depth) scope function.body)

end Monkey.Eval
