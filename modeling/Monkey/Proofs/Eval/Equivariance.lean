import Monkey.Proofs.Eval.Correspondence
import Mathlib.Data.List.Forall2

/-!
Evaluation does not depend on what names and identities are, only on which are the same. The same
program, with its names replaced by their counterparts, leads from corresponding stores to
corresponding outcomes and stores.
-/
namespace Monkey.Correspondence
open Eval

variable {m : Correspondence} {Rel : Store → Store → Prop} {i j : ScopeId} {a b c d : Object}

theorem steps_unary (keeps : m.Keeps Rel) (op : UnaryOp) (values : m.Objects a b) :
    m.Steps Rel m.Objects (applyUnary op a) (applyUnary op b) := by
  cases op with
  | bang =>
    show m.Steps Rel m.Objects (Eval.boolean (!a.isTruthy)) (Eval.boolean (!b.isTruthy))
    rw [values.isTruthy_eq]
    exact steps_boolean _
  | minus =>
    cases values with
    | integer ids value => exact keeps.integer (-value)
    | boolean | string | null | returnValue | error | function =>
      exact steps_fail (.unknownUnary _ .minus)

theorem steps_integers (keeps : m.Keeps Rel) (op : BinaryOp) (x y : Int64) :
    m.Steps Rel m.Objects (applyToIntegers op x y) (applyToIntegers op x y) := by
  cases op with
  | plus | minus | multiply => exact keeps.integer _
  | divide =>
    unfold applyToIntegers
    by_cases zero : y = 0
    · simp only [zero, if_true]
      exact steps_fail .divisionByZero
    · simp only [zero, if_false]
      exact keeps.integer _
  | lessThan | greaterThan | equal | notEqual => exact steps_boolean _

theorem steps_strings (keeps : m.Keeps Rel) (op : BinaryOp) (x y : String) :
    m.Steps Rel m.Objects (applyToStrings op x y) (applyToStrings op x y) := by
  cases op with
  | plus => exact keeps.string _
  | equal | notEqual => exact steps_boolean _
  | minus | multiply | divide | lessThan | greaterThan =>
    exact steps_fail (.unknownBinary .string .string _)

theorem steps_others (op : BinaryOp) (left : m.Objects a b) (right : m.Objects c d) :
    m.Steps Rel m.Objects (applyToOthers op a c) (applyToOthers op b d) := by
  have mismatch (op : BinaryOp) : m.Steps Rel m.Objects
      (if a.type ≠ c.type then fail (.typeMismatch a.type c.type op)
        else fail (.unknownBinary a.type c.type op))
      (if b.type ≠ d.type then fail (.typeMismatch b.type d.type op)
        else fail (.unknownBinary b.type d.type op)) := by
    rw [left.type_eq, right.type_eq]
    split
    · exact steps_fail (.typeMismatch _ _ op)
    · exact steps_fail (.unknownBinary _ _ op)
  unfold applyToOthers
  rw [left.identical_eq right]
  cases op with
  | equal | notEqual => exact steps_boolean _
  | plus | minus | multiply | divide | lessThan | greaterThan => exact mismatch _

theorem steps_binary (keeps : m.Keeps Rel) (op : BinaryOp) (left : m.Objects a b)
    (right : m.Objects c d) :
    m.Steps Rel m.Objects (applyBinary op a c) (applyBinary op b d) := by
  cases operands a c with
  | integers i j x y =>
    cases left
    cases right
    exact steps_integers keeps op x y
  | strings i j x y =>
    cases left
    cases right
    exact steps_strings keeps op x y
  | others apart =>
    have apart' : Apart b d := by
      unfold Apart at apart ⊢
      rwa [← left.type_eq, ← right.type_eq]
    rw [applyBinary_of_apart apart, applyBinary_of_apart apart']
    exact steps_others op left right

theorem steps_set (keeps : m.Keeps Rel) (scopes : m.scope i j) (name : String)
    (values : m.Objects a b) :
    m.Steps Rel Eq (Eval.set i name a) (Eval.set j (m.name name) b) :=
  fun _ _ related => ⟨.ok rfl, keeps.set related scopes name values⟩

theorem steps_openScope (keeps : m.Keeps Rel) (scopes : m.scope i j) :
    m.Steps Rel m.scope (Eval.openScope i) (Eval.openScope j) :=
  fun _ _ related => ⟨.ok (keeps.next_scope related), keeps.openScope related scopes⟩

def Calls (m : Correspondence) (Rel : Store → Store → Prop) (call call' : Call) : Prop :=
  ∀ ⦃f g : Function⦄ ⦃xs ys : List Object⦄, m.Functions f g → List.Forall₂ m.Objects xs ys →
    m.Steps Rel m.Objects (call f xs) (call' g ys)

variable {call call' : Call}

mutual

theorem steps_expression (keeps : m.Keeps Rel) (calls : m.Calls Rel call call')
    (scopes : m.scope i j) : ∀ e : Expr,
    m.Steps Rel m.Objects (expression call i e) (expression call' j (e.rename m.name))
  | .ident name => keeps.lookup scopes name
  | .int value => keeps.integer value
  | .string contents => keeps.string contents
  | .bool value => steps_boolean value
  | .unary op operand => by
    apply (steps_expression keeps calls scopes operand).bind
    intro a b values
    exact steps_unary keeps op values
  | .binary op left right => by
    apply (steps_expression keeps calls scopes left).bind
    intro a b first
    apply (steps_expression keeps calls scopes right).bind
    intro c d second
    exact steps_binary keeps op first second
  | .cond test consequence none => by
    apply (steps_expression keeps calls scopes test).bind
    intro a b chosen
    rw [chosen.isTruthy_eq]
    split
    · exact steps_statements keeps calls scopes consequence objects_null
    · exact steps_pure objects_null
  | .cond test consequence (some alternative) => by
    apply (steps_expression keeps calls scopes test).bind
    intro a b chosen
    rw [chosen.isTruthy_eq]
    split
    · exact steps_statements keeps calls scopes consequence objects_null
    · exact steps_statements keeps calls scopes alternative objects_null
  | .fn parameters body => keeps.create fun ids => .function ids ⟨rfl, rfl, scopes⟩
  | .call callee arguments => by
    apply (steps_expression keeps calls scopes callee).bind
    intro a b values
    cases values with
    | function ids functions =>
      apply (steps_expressions keeps calls scopes arguments).bind
      intro xs ys given
      exact calls functions given
    | integer | boolean | string | null | returnValue | error =>
      exact steps_fail (.callNonFunction _)
termination_by structural e => e

theorem steps_expressions (keeps : m.Keeps Rel) (calls : m.Calls Rel call call')
    (scopes : m.scope i j) : ∀ es : List Expr,
    m.Steps Rel (List.Forall₂ m.Objects) (expressions call i es)
      (expressions call' j (renameEach m.name es))
  | [] => steps_pure .nil
  | argument :: arguments => by
    apply (steps_expression keeps calls scopes argument).bind
    intro a b first
    apply (steps_expressions keeps calls scopes arguments).bind
    intro xs ys others
    exact steps_pure (.cons first others)
termination_by structural es => es

theorem steps_statement (keeps : m.Keeps Rel) (calls : m.Calls Rel call call')
    (scopes : m.scope i j) : ∀ s : Stmt,
    m.Steps Rel m.Objects (statement call i s) (statement call' j (s.rename m.name))
  | .letStmt name value => by
    apply (steps_expression keeps calls scopes value).bind
    intro a b values
    apply (steps_set keeps scopes name values).bind
    intro _ _ _
    exact steps_pure objects_null
  | .returnStmt value => by
    apply (steps_expression keeps calls scopes value).bind
    intro a b values
    exact steps_signal (.returned values)
  | .exprStmt value => steps_expression keeps calls scopes value
termination_by structural s => s

theorem steps_statements (keeps : m.Keeps Rel) (calls : m.Calls Rel call call')
    (scopes : m.scope i j) : ∀ (ss : List Stmt) {a b : Object}, m.Objects a b →
      m.Steps Rel m.Objects (statements call i a ss) (statements call' j b (renameAll m.name ss))
  | [], _, _, last => steps_pure last
  | first :: rest, _, _, _ => by
    apply (steps_statement keeps calls scopes first).bind
    intro a b values
    exact steps_statements keeps calls scopes rest values
termination_by structural ss => ss

end

theorem steps_bindAll (keeps : m.Keeps Rel) (scopes : m.scope i j) (names : List String)
    {xs ys : List Object} (values : List.Forall₂ m.Objects xs ys) :
    m.Steps Rel Eq (bindAll i (names.zip xs)) (bindAll j ((names.map m.name).zip ys)) := by
  induction names generalizing xs ys with
  | nil => exact steps_pure rfl
  | cons name names ih =>
    cases values with
    | nil => exact steps_pure rfl
    | cons first others =>
      apply (steps_set keeps scopes name first).bind
      intro _ _ _
      exact ih others

theorem steps_apply (keeps : m.Keeps Rel) (depth : Nat) :
    m.Calls Rel (Eval.apply depth) (Eval.apply depth) := by
  induction depth with
  | zero =>
    intro f g xs ys _ _
    exact steps_signal .exhausted
  | succ depth ih =>
    intro f g xs ys functions values
    obtain ⟨parameters, body, scopes⟩ := functions
    rw [Eval.apply, Eval.apply, parameters, body, List.length_map, values.length_eq]
    split
    · exact steps_fail (.wrongArgumentCount _ _)
    · apply (steps_openScope keeps scopes).bind
      intro i j scopes
      apply (steps_bindAll keeps scopes f.parameters values).bind
      intro _ _ _
      exact (steps_statements keeps ih scopes f.body objects_null).catchReturn

theorem steps_run (keeps : m.Keeps Rel) (depth : Nat) (scopes : m.scope i j) (node : Node) :
    m.Steps Rel m.Objects (run (Eval.apply depth) i node)
      (run (Eval.apply depth) j (node.rename m.name)) := by
  have calls := steps_apply keeps depth
  cases node with
  | program program => exact (steps_statements keeps calls scopes program objects_null).catchReturn
  | block body => exact steps_statements keeps calls scopes body objects_null
  | statement stmt => exact steps_statement keeps calls scopes stmt
  | expression expr => exact steps_expression keeps calls scopes expr

/-- Related stores lead to corresponding objects and related stores, or calls are nested too deeply
on both sides. -/
theorem node_keeps (keeps : m.Keeps Rel) (depth : Nat) (scopes : m.scope i j) (node : Node)
    {s t : Store} (related : Rel s t) :
    Option.Rel m.Objects (Eval.node depth i node s).1
        (Eval.node depth j (node.rename m.name) t).1 ∧
      Rel (Eval.node depth i node s).2 (Eval.node depth j (node.rename m.name) t).2 := by
  obtain ⟨outcomes, later⟩ := steps_run keeps depth scopes node related
  rw [Eval.node_eq, Eval.node_eq]
  generalize run (Eval.apply depth) i node s = one at outcomes later
  generalize run (Eval.apply depth) j (node.rename m.name) t = two at outcomes later
  obtain ⟨ended, s'⟩ := one
  obtain ⟨ended', t'⟩ := two
  have ids := keeps.next_object later
  cases outcomes with
  | ok values => exact ⟨.some values, later⟩
  | error signals =>
    cases signals with
    | returned values => exact ⟨.some (.returnValue ids values), keeps.counted later⟩
    | failed cause => exact ⟨.some (.error ids cause), keeps.counted later⟩
    | exhausted => exact ⟨.none, later⟩

theorem node_corresponds (m : Correspondence) (depth : Nat) (scopes : m.scope i j) (node : Node)
    {s t : Store} (stores : m.Stores s t) :
    Option.Rel m.Objects (Eval.node depth i node s).1
        (Eval.node depth j (node.rename m.name) t).1 ∧
      m.Stores (Eval.node depth i node s).2 (Eval.node depth j (node.rename m.name) t).2 :=
  node_keeps m.keeps_stores depth scopes node stores

end Monkey.Correspondence
