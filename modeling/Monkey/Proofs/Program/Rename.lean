import Monkey.Eval.Entry

/-! Renaming all identifiers of a program: those that are used, those bound, and parameters. -/
namespace Monkey

variable (r : String → String)

mutual

def Expr.rename : Expr → Expr
  | .ident name => .ident (r name)
  | .int value => .int value
  | .string contents => .string contents
  | .bool value => .bool value
  | .unary op operand => .unary op operand.rename
  | .binary op left right => .binary op left.rename right.rename
  | .cond test consequence none => .cond test.rename (renameAll consequence) none
  | .cond test consequence (some alternative) =>
    .cond test.rename (renameAll consequence) (some (renameAll alternative))
  | .fn parameters body => .fn (parameters.map r) (renameAll body)
  | .call callee arguments => .call callee.rename (renameEach arguments)
termination_by structural e => e

def Stmt.rename : Stmt → Stmt
  | .letStmt name value => .letStmt (r name) value.rename
  | .returnStmt value => .returnStmt value.rename
  | .exprStmt value => .exprStmt value.rename
termination_by structural s => s

def renameAll : List Stmt → List Stmt
  | [] => []
  | statement :: statements => statement.rename :: renameAll statements
termination_by structural ss => ss

def renameEach : List Expr → List Expr
  | [] => []
  | argument :: arguments => argument.rename :: renameEach arguments
termination_by structural es => es

end

def Node.rename : Node → Node
  | .program body => .program (renameAll r body)
  | .block body => .block (renameAll r body)
  | .statement stmt => .statement (stmt.rename r)
  | .expression expr => .expression (expr.rename r)

def EvalError.rename : EvalError → EvalError
  | .unknownIdentifier name => .unknownIdentifier (r name)
  | other => other

mutual

theorem Expr.rename_id : ∀ e : Expr, e.rename id = e
  | .ident _ => rfl
  | .int _ => rfl
  | .string _ => rfl
  | .bool _ => rfl
  | .unary op operand => by rw [Expr.rename, operand.rename_id]
  | .binary op left right => by rw [Expr.rename, left.rename_id, right.rename_id]
  | .cond test consequence none => by rw [Expr.rename, test.rename_id, renameAll_id consequence]
  | .cond test consequence (some alternative) => by
    rw [Expr.rename, test.rename_id, renameAll_id consequence, renameAll_id alternative]
  | .fn parameters body => by rw [Expr.rename, List.map_id, renameAll_id body]
  | .call callee arguments => by rw [Expr.rename, callee.rename_id, renameEach_id arguments]
termination_by structural e => e

theorem Stmt.rename_id : ∀ s : Stmt, s.rename id = s
  | .letStmt name value => by rw [Stmt.rename, value.rename_id, id]
  | .returnStmt value => by rw [Stmt.rename, value.rename_id]
  | .exprStmt value => by rw [Stmt.rename, value.rename_id]
termination_by structural s => s

theorem renameAll_id : ∀ ss : List Stmt, renameAll id ss = ss
  | [] => rfl
  | statement :: statements => by rw [renameAll, statement.rename_id, renameAll_id statements]
termination_by structural ss => ss

theorem renameEach_id : ∀ es : List Expr, renameEach id es = es
  | [] => rfl
  | argument :: arguments => by rw [renameEach, argument.rename_id, renameEach_id arguments]
termination_by structural es => es

end

theorem Node.rename_id (node : Node) : node.rename id = node := by
  cases node with
  | program body => rw [Node.rename, renameAll_id]
  | block body => rw [Node.rename, renameAll_id]
  | statement stmt => rw [Node.rename, stmt.rename_id]
  | expression expr => rw [Node.rename, expr.rename_id]

theorem EvalError.rename_id (cause : EvalError) : cause.rename id = cause := by
  cases cause with
  | unknownIdentifier name => rfl
  | _ => rfl

end Monkey
