import Monkey.Program.Basic

/-! What holds of every node of a program. -/
namespace Monkey

mutual

/-- `p` holds of the expression and of all inside it, and `q` of all statements inside it. -/
def Expr.Throughout (p : Expr → Prop) (q : Stmt → Prop) : Expr → Prop
  | .unary op operand => p (.unary op operand) ∧ operand.Throughout p q
  | .binary op left right => p (.binary op left right) ∧ left.Throughout p q ∧ right.Throughout p q
  | .cond test consequence none =>
    p (.cond test consequence none) ∧ test.Throughout p q ∧ AllThroughout p q consequence
  | .cond test consequence (some alternative) =>
    p (.cond test consequence (some alternative)) ∧ test.Throughout p q ∧
      AllThroughout p q consequence ∧ AllThroughout p q alternative
  | .fn parameters body => p (.fn parameters body) ∧ AllThroughout p q body
  | .call callee arguments =>
    p (.call callee arguments) ∧ callee.Throughout p q ∧ EachThroughout p q arguments
  | .ident name => p (.ident name)
  | .int value => p (.int value)
  | .string contents => p (.string contents)
  | .bool value => p (.bool value)
termination_by structural e => e

def Stmt.Throughout (p : Expr → Prop) (q : Stmt → Prop) : Stmt → Prop
  | .letStmt name value => q (.letStmt name value) ∧ value.Throughout p q
  | .returnStmt value => q (.returnStmt value) ∧ value.Throughout p q
  | .exprStmt value => q (.exprStmt value) ∧ value.Throughout p q
termination_by structural s => s

def AllThroughout (p : Expr → Prop) (q : Stmt → Prop) : List Stmt → Prop
  | [] => True
  | statement :: statements => statement.Throughout p q ∧ AllThroughout p q statements
termination_by structural ss => ss

def EachThroughout (p : Expr → Prop) (q : Stmt → Prop) : List Expr → Prop
  | [] => True
  | argument :: arguments => argument.Throughout p q ∧ EachThroughout p q arguments
termination_by structural es => es

end

section

variable {p p' : Expr → Prop} {q q' : Stmt → Prop}

mutual

theorem Expr.Throughout.imp (exprs : ∀ e, p e → p' e) (stmts : ∀ s, q s → q' s) :
    ∀ {e : Expr}, e.Throughout p q → e.Throughout p' q'
  | .ident _, node => exprs _ node
  | .int _, node => exprs _ node
  | .string _, node => exprs _ node
  | .bool _, node => exprs _ node
  | .unary _ _, ⟨node, operand⟩ => ⟨exprs _ node, operand.imp exprs stmts⟩
  | .binary _ _ _, ⟨node, left, right⟩ =>
    ⟨exprs _ node, left.imp exprs stmts, right.imp exprs stmts⟩
  | .cond _ _ none, ⟨node, test, branch⟩ =>
    ⟨exprs _ node, test.imp exprs stmts, AllThroughout.imp exprs stmts branch⟩
  | .cond _ _ (some _), ⟨node, test, branch, other⟩ =>
    ⟨exprs _ node, test.imp exprs stmts, AllThroughout.imp exprs stmts branch,
      AllThroughout.imp exprs stmts other⟩
  | .fn _ _, ⟨node, body⟩ => ⟨exprs _ node, AllThroughout.imp exprs stmts body⟩
  | .call _ _, ⟨node, callee, given⟩ =>
    ⟨exprs _ node, callee.imp exprs stmts, EachThroughout.imp exprs stmts given⟩
termination_by structural e => e

theorem Stmt.Throughout.imp (exprs : ∀ e, p e → p' e) (stmts : ∀ s, q s → q' s) :
    ∀ {s : Stmt}, s.Throughout p q → s.Throughout p' q'
  | .letStmt _ _, ⟨node, value⟩ => ⟨stmts _ node, value.imp exprs stmts⟩
  | .returnStmt _, ⟨node, value⟩ => ⟨stmts _ node, value.imp exprs stmts⟩
  | .exprStmt _, ⟨node, value⟩ => ⟨stmts _ node, value.imp exprs stmts⟩
termination_by structural s => s

theorem AllThroughout.imp (exprs : ∀ e, p e → p' e) (stmts : ∀ s, q s → q' s) :
    ∀ {ss : List Stmt}, AllThroughout p q ss → AllThroughout p' q' ss
  | [], _ => trivial
  | _ :: _, ⟨first, others⟩ => ⟨first.imp exprs stmts, AllThroughout.imp exprs stmts others⟩
termination_by structural ss => ss

theorem EachThroughout.imp (exprs : ∀ e, p e → p' e) (stmts : ∀ s, q s → q' s) :
    ∀ {es : List Expr}, EachThroughout p q es → EachThroughout p' q' es
  | [], _ => trivial
  | _ :: _, ⟨first, others⟩ => ⟨first.imp exprs stmts, EachThroughout.imp exprs stmts others⟩
termination_by structural es => es

end

mutual

theorem Expr.throughout_of_all (exprs : ∀ e, p e) (stmts : ∀ s, q s) :
    ∀ e : Expr, e.Throughout p q
  | .ident _ | .int _ | .string _ | .bool _ => exprs _
  | .unary _ operand => ⟨exprs _, operand.throughout_of_all exprs stmts⟩
  | .binary _ left right =>
    ⟨exprs _, left.throughout_of_all exprs stmts, right.throughout_of_all exprs stmts⟩
  | .cond test branch none =>
    ⟨exprs _, test.throughout_of_all exprs stmts, allThroughout_of_all exprs stmts branch⟩
  | .cond test branch (some other) =>
    ⟨exprs _, test.throughout_of_all exprs stmts, allThroughout_of_all exprs stmts branch,
      allThroughout_of_all exprs stmts other⟩
  | .fn _ body => ⟨exprs _, allThroughout_of_all exprs stmts body⟩
  | .call callee given =>
    ⟨exprs _, callee.throughout_of_all exprs stmts, eachThroughout_of_all exprs stmts given⟩
termination_by structural e => e

theorem Stmt.throughout_of_all (exprs : ∀ e, p e) (stmts : ∀ s, q s) :
    ∀ s : Stmt, s.Throughout p q
  | .letStmt _ value => ⟨stmts _, value.throughout_of_all exprs stmts⟩
  | .returnStmt value => ⟨stmts _, value.throughout_of_all exprs stmts⟩
  | .exprStmt value => ⟨stmts _, value.throughout_of_all exprs stmts⟩
termination_by structural s => s

theorem allThroughout_of_all (exprs : ∀ e, p e) (stmts : ∀ s, q s) :
    ∀ ss : List Stmt, AllThroughout p q ss
  | [] => trivial
  | first :: others =>
    ⟨first.throughout_of_all exprs stmts, allThroughout_of_all exprs stmts others⟩
termination_by structural ss => ss

theorem eachThroughout_of_all (exprs : ∀ e, p e) (stmts : ∀ s, q s) :
    ∀ es : List Expr, EachThroughout p q es
  | [] => trivial
  | first :: others =>
    ⟨first.throughout_of_all exprs stmts, eachThroughout_of_all exprs stmts others⟩
termination_by structural es => es

end

end

end Monkey
