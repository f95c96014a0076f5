import Monkey.Proofs.Render.Parsed

/-!
Reading back what was rendered. Everything is rendered so that it is read back as the same tree, but
for the test of a conditional, which gets no parentheses of its own. It is read back if it is an
operation, since operations bring theirs, and it is refused otherwise.
-/
namespace Monkey
open Token (Kind)
open Grammar Parse

def Expr.IsOperation : Expr → Prop
  | .unary _ _ | .binary _ _ _ => True
  | _ => False

def Expr.NodeTestOperates : Expr → Prop
  | .cond test _ _ => test.IsOperation
  | _ => True

abbrev Expr.TestsOperate : Expr → Prop := Expr.Throughout Expr.NodeTestOperates fun _ => True

abbrev Stmt.TestsOperate : Stmt → Prop := Stmt.Throughout Expr.NodeTestOperates fun _ => True

abbrev AllTestsOperate : List Stmt → Prop := AllThroughout Expr.NodeTestOperates fun _ => True

abbrev EachTestsOperate : List Expr → Prop := EachThroughout Expr.NodeTestOperates fun _ => True

def Expr.inside : Expr → List Kind
  | .unary op operand => op.kind :: operand.kinds
  | .binary op left right => left.kinds ++ op.kind :: right.kinds
  | e => e.kinds

theorem Expr.kinds_of_isOperation {e : Expr} (operation : e.IsOperation) :
    e.kinds = .lparen :: (e.inside ++ [.rparen]) := by
  cases e with
  | unary op operand => simp [Expr.kinds, inside]
  | binary op left right => simp [Expr.kinds, inside]
  | _ => contradiction

namespace Grammar

theorem unary_derived (op : UnaryOp) {kinds : List Kind} {e : Expr}
    (operand : Expression .call kinds e) : Expression .lowest (op.kind :: kinds) (.unary op e) := by
  have inner : Expression .unary kinds e := operand.loosen (by decide)
  exact (inner.prefixed op).loosen (Level.lowest_le _)

theorem binary_derived (op : BinaryOp) {us vs : List Kind} {left right : Expr}
    (first : Expression .call us left) (second : Expression .call vs right) :
    Expression .lowest (us ++ op.kind :: vs) (.binary op left right) := by
  have whole : Expression op.level (us ++ op.kind :: vs) (.binary op left right) :=
    .operation op.ofKind?_kind (first.loosen (Level.le_call _)) (second.loosen (Level.le_call _))
  exact whole.loosen (Level.lowest_le _)

theorem operation_derived {e : Expr} (operation : e.IsOperation)
    (inner : Expression .lowest e.inside e) : Expression .call e.kinds e := by
  rw [e.kinds_of_isOperation operation]
  exact .primary (.group inner)

end Grammar

theorem arguments_derived {es : List Expr} (given : es = [] ∨ ArgumentList (eachKinds es) es) :
    Arguments (eachKinds es) es := by
  rcases given with rfl | list
  · exact .none
  · exact .some list

theorem kinds_braces (kinds : List Kind) {code : List Stmt} (inner : Statements kinds code) :
    Grammar.Block (.lbrace :: (kinds ++ [.rbrace])) code := .braces inner

mutual

/-- What the rendering is cut into derives the tree that was rendered. An operation is also derived
without its parentheses, to serve as a test. -/
theorem Expr.derived : ∀ e : Expr, e.Writable → e.TestsOperate →
    Expression .call e.kinds e ∧ (e.IsOperation → Expression .lowest e.inside e)
  | .ident name, _, _ => ⟨.primary (.ident name), False.elim⟩
  | .int _, nonneg, _ => by
    rw [Expr.kinds, numeralKinds_of_nonneg nonneg]
    exact ⟨.primary (.int (Numeral.read_write nonneg)), False.elim⟩
  | .string contents, _, _ => ⟨.primary (.string contents), False.elim⟩
  | .bool true, _, _ => ⟨.primary .true, False.elim⟩
  | .bool false, _, _ => ⟨.primary .false, False.elim⟩
  | .unary op operand, ⟨_, writable⟩, ⟨_, tests⟩ => by
    have inner := unary_derived op (operand.derived writable tests).1
    exact ⟨operation_derived trivial inner, fun _ => inner⟩
  | .binary op left right, ⟨_, first, second⟩, ⟨_, firstTests, secondTests⟩ => by
    have inner := binary_derived op (left.derived first firstTests).1
      (right.derived second secondTests).1
    exact ⟨operation_derived trivial inner, fun _ => inner⟩
  | .cond test consequence none, ⟨_, condition, branch⟩, ⟨operation, tests, branchTests⟩ => by
    have inner := (test.derived condition tests).2 operation
    have block := kinds_braces _ (allDerived consequence branch branchTests)
    refine ⟨?_, False.elim⟩
    rw [Expr.kinds, test.kinds_of_isOperation operation]
    simpa using Expression.primary (Primary.cond inner block)
  | .cond test consequence (some alternative), ⟨_, condition, branch, other⟩,
      ⟨operation, tests, branchTests, otherTests⟩ => by
    have inner := (test.derived condition tests).2 operation
    have block := kinds_braces _ (allDerived consequence branch branchTests)
    have otherwise := kinds_braces _ (allDerived alternative other otherTests)
    refine ⟨?_, False.elim⟩
    rw [Expr.kinds, test.kinds_of_isOperation operation]
    simpa using Expression.primary (Primary.condElse inner block otherwise)
  | .fn parameters body, ⟨_, writable⟩, ⟨_, tests⟩ => by
    have spelled : Parameters ((parameters.map Kind.ident).intersperse .comma) parameters := rfl
    have block := kinds_braces _ (allDerived body writable tests)
    exact ⟨.primary (.fn spelled block), False.elim⟩
  | .call callee arguments, ⟨_, function, given⟩, ⟨_, tests, givenTests⟩ => by
    have list := arguments_derived (eachDerived arguments given givenTests)
    exact ⟨.call (callee.derived function tests).1 list, False.elim⟩
termination_by structural e => e

theorem Stmt.derived : ∀ s : Stmt, s.Writable → s.TestsOperate → Statement s.kinds s
  | .letStmt name value, ⟨_, writable⟩, ⟨_, tests⟩ =>
    .letStmt name ((value.derived writable tests).1.loosen (Level.le_call _))
  | .returnStmt value, ⟨_, writable⟩, ⟨_, tests⟩ =>
    .returnStmt ((value.derived writable tests).1.loosen (Level.le_call _))
  | .exprStmt value, ⟨_, writable⟩, ⟨_, tests⟩ =>
    .exprStmt ((value.derived writable tests).1.loosen (Level.le_call _))
termination_by structural s => s

theorem allDerived : ∀ ss : List Stmt, AllWritable ss → AllTestsOperate ss →
    Statements (allKinds ss) ss
  | [], _, _ => .nil
  | statement :: statements, ⟨writable, others⟩, ⟨tests, otherTests⟩ =>
    .semicolon (statement.derived writable tests) (allDerived statements others otherTests)
termination_by structural ss => ss

theorem eachDerived : ∀ es : List Expr, EachWritable es → EachTestsOperate es →
    es = [] ∨ ArgumentList (eachKinds es) es
  | [], _, _ => .inl rfl
  | [argument], ⟨writable, _⟩, ⟨tests, _⟩ =>
    .inr (.last ((argument.derived writable tests).1.loosen (Level.le_call _)))
  | argument :: next :: arguments, ⟨writable, others⟩, ⟨tests, otherTests⟩ => by
    have first := (argument.derived writable tests).1.loosen (Level.le_call .lowest)
    rcases eachDerived (next :: arguments) others otherTests with empty | list
    · contradiction
    · exact .inr (.more first list)
termination_by structural es => es

end

end Monkey
