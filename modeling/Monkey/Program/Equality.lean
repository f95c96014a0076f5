import Monkey.Program.Basic

/-! Equality of programs is decidable: trees are equal when they agree node by node. -/
namespace Monkey

mutual

def Expr.agrees : Expr → Expr → Bool
  | .ident a, .ident b => a == b
  | .int a, .int b => a == b
  | .string a, .string b => a == b
  | .bool a, .bool b => a == b
  | .unary op a, .unary op' b => op == op' && a.agrees b
  | .binary op a c, .binary op' b d => op == op' && a.agrees b && c.agrees d
  | .cond a c none, .cond b d none => a.agrees b && blocksAgree c d
  | .cond a c (some e), .cond b d (some f) => a.agrees b && blocksAgree c d && blocksAgree e f
  | .fn xs a, .fn ys b => xs == ys && blocksAgree a b
  | .call f xs, .call g ys => f.agrees g && argumentsAgree xs ys
  | _, _ => false
termination_by structural a => a

def Stmt.agrees : Stmt → Stmt → Bool
  | .letStmt x a, .letStmt y b => x == y && a.agrees b
  | .returnStmt a, .returnStmt b => a.agrees b
  | .exprStmt a, .exprStmt b => a.agrees b
  | _, _ => false
termination_by structural a => a

def blocksAgree : List Stmt → List Stmt → Bool
  | [], [] => true
  | a :: as, b :: bs => a.agrees b && blocksAgree as bs
  | _, _ => false
termination_by structural a => a

def argumentsAgree : List Expr → List Expr → Bool
  | [], [] => true
  | a :: as, b :: bs => a.agrees b && argumentsAgree as bs
  | _, _ => false
termination_by structural a => a

end

mutual

theorem Expr.agrees_iff : ∀ a b : Expr, a.agrees b = true ↔ a = b
  | .ident _, b => by cases b <;> simp [Expr.agrees]
  | .int _, b => by cases b <;> simp [Expr.agrees]
  | .string _, b => by cases b <;> simp [Expr.agrees]
  | .bool _, b => by cases b <;> simp [Expr.agrees]
  | .unary _ a, b => by
    cases b <;> simp [Expr.agrees]
    intro _
    exact a.agrees_iff _
  | .binary _ a c, b => by
    cases b <;> simp [Expr.agrees, a.agrees_iff, c.agrees_iff, and_assoc]
  | .cond a c none, b => by
    cases b with
    | cond _ _ alternative =>
      cases alternative <;> simp [Expr.agrees, a.agrees_iff, blocksAgree_iff c]
    | _ => simp [Expr.agrees]
  | .cond a c (some e), b => by
    cases b with
    | cond _ _ alternative =>
      cases alternative <;>
        simp [Expr.agrees, a.agrees_iff, blocksAgree_iff c, blocksAgree_iff e, and_assoc]
    | _ => simp [Expr.agrees]
  | .fn _ a, b => by cases b <;> simp [Expr.agrees, blocksAgree_iff a]
  | .call f xs, b => by cases b <;> simp [Expr.agrees, f.agrees_iff, argumentsAgree_iff xs]
termination_by structural a => a

theorem Stmt.agrees_iff : ∀ a b : Stmt, a.agrees b = true ↔ a = b
  | .letStmt _ a, b => by cases b <;> simp [Stmt.agrees, a.agrees_iff]
  | .returnStmt a, b => by cases b <;> simp [Stmt.agrees, a.agrees_iff]
  | .exprStmt a, b => by cases b <;> simp [Stmt.agrees, a.agrees_iff]
termination_by structural a => a

theorem blocksAgree_iff : ∀ a b : List Stmt, blocksAgree a b = true ↔ a = b
  | [], b => by cases b <;> simp [blocksAgree]
  | a :: as, b => by cases b <;> simp [blocksAgree, a.agrees_iff, blocksAgree_iff as]
termination_by structural a => a

theorem argumentsAgree_iff : ∀ a b : List Expr, argumentsAgree a b = true ↔ a = b
  | [], b => by cases b <;> simp [argumentsAgree]
  | a :: as, b => by cases b <;> simp [argumentsAgree, a.agrees_iff, argumentsAgree_iff as]
termination_by structural a => a

end

instance : DecidableEq Expr := fun a b => decidable_of_iff _ (a.agrees_iff b)

instance : DecidableEq Stmt := fun a b => decidable_of_iff _ (a.agrees_iff b)

end Monkey
