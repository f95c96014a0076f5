import Monkey.Proofs.Eval.Steps

/-!
How deeply calls may be nested decides whether an evaluation ends, never what it comes to. One that
ends comes to the same wherever calls may be nested more deeply, so all that end agree.
-/
namespace Monkey.Eval

variable {α β : Type}

/-- The one step goes where the other goes, unless that is exhausted. -/
def Extends (one other : Eval α) : Prop :=
  ∀ store, (other store).1 ≠ .error .exhausted → one store = other store

theorem Extends.refl (step : Eval α) : step.Extends step := fun _ _ => rfl

theorem Extends.trans {first second third : Eval α} (more : first.Extends second)
    (less : second.Extends third) : first.Extends third := by
  intro store ends
  have same := less store ends
  rw [← same] at ends ⊢
  exact more store ends

theorem extends_exhausted (step : Eval α) : step.Extends (signal .exhausted) :=
  fun _ ends => absurd rfl ends

theorem Extends.bind {one other : Eval α} {next next' : α → Eval β} (first : one.Extends other)
    (rest : ∀ value, (next value).Extends (next' value)) :
    (one >>= next).Extends (other >>= next') := by
  intro store ends
  have same := first store
  generalize result : other store = gone at same
  obtain ⟨outcome, later⟩ := gone
  cases outcome with
  | ok value =>
    rw [bind_of_ok result] at ends ⊢
    rw [bind_of_ok (same (by simp))]
    exact rest value later ends
  | error stop =>
    rw [bind_of_error result] at ends ⊢
    apply bind_of_error
    apply same
    rintro ⟨⟩
    exact ends rfl

theorem Extends.catchReturn {one other : Eval Object} (step : one.Extends other) :
    (catchReturn one).Extends (catchReturn other) := by
  intro store ends
  apply catchReturn_congr
  apply step
  intro exhausted
  unfold Eval.catchReturn at ends
  split at ends
  · next value later stops => simp [stops] at exhausted
  · exact ends exhausted

variable {one other : Call} {scope : ScopeId}

def CallsExtend (one other : Call) : Prop :=
  ∀ function arguments, (one function arguments).Extends (other function arguments)

mutual

theorem extends_expression (calls : CallsExtend one other) :
    ∀ e : Expr, (expression one scope e).Extends (expression other scope e)
  | .ident _ => .refl _
  | .int _ => .refl _
  | .string _ => .refl _
  | .bool _ => .refl _
  | .unary _ operand => (extends_expression calls operand).bind fun _ => .refl _
  | .binary _ left right => by
    apply (extends_expression calls left).bind
    intro first
    exact (extends_expression calls right).bind fun _ => .refl _
  | .cond test consequence none => by
    apply (extends_expression calls test).bind
    intro chosen
    split
    · exact extends_statements calls consequence
    · exact .refl _
  | .cond test consequence (some alternative) => by
    apply (extends_expression calls test).bind
    intro chosen
    split
    · exact extends_statements calls consequence
    · exact extends_statements calls alternative
  | .fn _ _ => .refl _
  | .call callee arguments => by
    apply (extends_expression calls callee).bind
    intro value
    cases value with
    | function id function =>
      apply (extends_expressions calls arguments).bind
      intro given
      exact calls function given
    | _ => exact .refl _
termination_by structural e => e

theorem extends_expressions (calls : CallsExtend one other) :
    ∀ es : List Expr, (expressions one scope es).Extends (expressions other scope es)
  | [] => .refl _
  | argument :: arguments => by
    apply (extends_expression calls argument).bind
    intro value
    exact (extends_expressions calls arguments).bind fun _ => .refl _
termination_by structural es => es

theorem extends_statement (calls : CallsExtend one other) :
    ∀ s : Stmt, (statement one scope s).Extends (statement other scope s)
  | .letStmt _ value => (extends_expression calls value).bind fun _ => .refl _
  | .returnStmt value => (extends_expression calls value).bind fun _ => .refl _
  | .exprStmt value => extends_expression calls value
termination_by structural s => s

theorem extends_statements (calls : CallsExtend one other) :
    ∀ (ss : List Stmt) {last : Object},
      (statements one scope last ss).Extends (statements other scope last ss)
  | [], _ => .refl _
  | first :: rest, _ => by
    apply (extends_statement calls first).bind
    intro value
    exact extends_statements calls rest
termination_by structural ss => ss

end

theorem extends_run (calls : CallsExtend one other) (node : Node) :
    (run one scope node).Extends (run other scope node) := by
  cases node with
  | program program => exact (extends_statements calls program).catchReturn
  | block body => exact extends_statements calls body
  | statement stmt => exact extends_statement calls stmt
  | expression expr => exact extends_expression calls expr

theorem callsExtend_succ (depth : Nat) : CallsExtend (apply (depth + 1)) (apply depth) := by
  induction depth with
  | zero => exact fun _ _ => extends_exhausted _
  | succ depth ih =>
    intro function arguments store ends
    rw [apply_succ] at ends ⊢
    rw [apply_succ]
    split at ends
    · rfl
    · next scope start enters =>
      exact (extends_statements ih function.body).catchReturn start ends

/-- A call that ends comes to the same wherever calls may be nested more deeply. -/
theorem callsExtend {depth deeper : Nat} (more : depth ≤ deeper) :
    CallsExtend (apply deeper) (apply depth) := by
  induction more with
  | refl => exact fun _ _ => .refl _
  | step _ ih =>
    intro function arguments
    exact (callsExtend_succ _ function arguments).trans (ih function arguments)

theorem toObject?_isSome_iff (result : Except Signal Object × Store) :
    (toObject? result).1.isSome ↔ result.1 ≠ .error .exhausted := by
  obtain ⟨outcome, later⟩ := result
  cases outcome with
  | ok value => simp [toObject?]
  | error stop => cases stop <;> simp [toObject?]

theorem node_deeper {depth deeper : Nat} (more : depth ≤ deeper) {node : Node} {store : Store}
    (ends : (Eval.node depth scope node store).1.isSome) :
    Eval.node deeper scope node store = Eval.node depth scope node store := by
  rw [node_eq] at ends ⊢
  rw [node_eq, extends_run (callsExtend more) node store ((toObject?_isSome_iff _).1 ends)]

theorem node_unique {depth depth' : Nat} {node : Node} {store : Store}
    (ends : (Eval.node depth scope node store).1.isSome)
    (ends' : (Eval.node depth' scope node store).1.isSome) :
    Eval.node depth scope node store = Eval.node depth' scope node store := by
  rcases Nat.le_total depth depth' with more | more
  · exact (node_deeper more ends).symm
  · exact node_deeper more ends'

end Monkey.Eval
