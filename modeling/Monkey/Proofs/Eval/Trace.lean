import Monkey.Proofs.Eval.Steps

/-!
The calls that an evaluation makes, in order, each with the store that it finds, and the function
bodies that are run for them. An evaluation learns nothing of calls beyond those: carried out in
another way that agrees on the calls made, it comes to the same.
-/
namespace Monkey

structure Activation where
  function : Function
  arguments : List Object
  store : Store

/-- A function body that is run for a call: the scope it runs in and the store it starts from. -/
structure BodyRun where
  activation : Activation
  scope : ScopeId
  start : Store

namespace Eval

variable {α β : Type}

/-- The calls behind a step that gave a value. Nothing is called behind a signal. -/
def callsBehind (result : Except Signal α × Store) (next : α → Store → List Activation) :
    List Activation :=
  match result with
  | (.ok value, store) => next value store
  | (.error _, _) => []

mutual

def callsOfExpression (call : Call) (scope : ScopeId) : Expr → Store → List Activation
  | .ident _, _ => []
  | .int _, _ => []
  | .string _, _ => []
  | .bool _, _ => []
  | .unary _ operand, store => callsOfExpression call scope operand store
  | .binary _ left right, store =>
    callsOfExpression call scope left store ++
      callsBehind (expression call scope left store) fun _ store =>
        callsOfExpression call scope right store
  | .cond test consequence none, store =>
    callsOfExpression call scope test store ++
      callsBehind (expression call scope test store) fun chosen store =>
        if chosen.isTruthy then callsOfStatements call scope consequence store else []
  | .cond test consequence (some alternative), store =>
    callsOfExpression call scope test store ++
      callsBehind (expression call scope test store) fun chosen store =>
        if chosen.isTruthy then callsOfStatements call scope consequence store
        else callsOfStatements call scope alternative store
  | .fn _ _, _ => []
  | .call callee arguments, store =>
    callsOfExpression call scope callee store ++
      callsBehind (expression call scope callee store) fun callee store =>
        match callee with
        | .function _ function =>
          callsOfExpressions call scope arguments store ++
            callsBehind (expressions call scope arguments store) fun given store =>
              [⟨function, given, store⟩]
        | _ => []
termination_by structural e => e

def callsOfExpressions (call : Call) (scope : ScopeId) : List Expr → Store → List Activation
  | [], _ => []
  | argument :: arguments, store =>
    callsOfExpression call scope argument store ++
      callsBehind (expression call scope argument store) fun _ store =>
        callsOfExpressions call scope arguments store
termination_by structural es => es

def callsOfStatement (call : Call) (scope : ScopeId) : Stmt → Store → List Activation
  | .letStmt _ value, store => callsOfExpression call scope value store
  | .returnStmt value, store => callsOfExpression call scope value store
  | .exprStmt value, store => callsOfExpression call scope value store
termination_by structural s => s

def callsOfStatements (call : Call) (scope : ScopeId) : List Stmt → Store → List Activation
  | [], _ => []
  | first :: rest, store =>
    callsOfStatement call scope first store ++
      callsBehind (statement call scope first store) fun _ store =>
        callsOfStatements call scope rest store
termination_by structural ss => ss

end

def callsOf (call : Call) (scope : ScopeId) : Node → Store → List Activation
  | .program body, store => callsOfStatements call scope body store
  | .block body, store => callsOfStatements call scope body store
  | .statement stmt, store => callsOfStatement call scope stmt store
  | .expression expr, store => callsOfExpression call scope expr store

/-- The bodies that are run for a call, its own first, then those for the calls that are made in
its own. -/
def bodiesOfCall : (depth : Nat) → Activation → List BodyRun
  | 0, _ => []
  | depth + 1, activation =>
    match enter? activation.function activation.arguments activation.store with
    | none => []
    | some (scope, start) =>
      ⟨activation, scope, start⟩ ::
        (callsOf (apply depth) scope (.block activation.function.body) start).flatMap
          (bodiesOfCall depth)

def bodiesRun (depth : Nat) (scope : ScopeId) (node : Node) (store : Store) : List BodyRun :=
  (callsOf (apply depth) scope node store).flatMap (bodiesOfCall depth)

def AgreeOn (one other : Call) (made : List Activation) : Prop :=
  ∀ activation ∈ made, one activation.function activation.arguments activation.store =
    other activation.function activation.arguments activation.store

variable {one other : Call} {scope : ScopeId} {store : Store}

theorem agreeOn_append {first second : List Activation} :
    AgreeOn one other (first ++ second) ↔ AgreeOn one other first ∧ AgreeOn one other second := by
  simp only [AgreeOn, List.mem_append, or_imp, forall_and]

theorem bind_congr {step step' : Eval α} {next next' : α → Eval β}
    {made : α → Store → List Activation} (same : step store = step' store)
    (agree : AgreeOn one other (callsBehind (step store) made))
    (goesOn : ∀ value later, AgreeOn one other (made value later) →
      next value later = next' value later) :
    (step >>= next) store = (step' >>= next') store := by
  cases result : step store with
  | mk outcome later =>
    rw [result] at same agree
    cases outcome with
    | ok value =>
      rw [bind_of_ok result, bind_of_ok same.symm]
      exact goesOn value later agree
    | error stop => rw [bind_of_error result, bind_of_error same.symm]

theorem bind_same {step step' : Eval α} (same : step store = step' store) (next : α → Eval β) :
    (step >>= next) store = (step' >>= next) store := by
  show Eval.bind step next store = Eval.bind step' next store
  rw [Eval.bind, Eval.bind, same]

mutual

theorem expression_congr : ∀ (e : Expr) {store : Store},
    AgreeOn one other (callsOfExpression one scope e store) →
      expression one scope e store = expression other scope e store
  | .ident _, _, _ => rfl
  | .int _, _, _ => rfl
  | .string _, _, _ => rfl
  | .bool _, _, _ => rfl
  | .unary op operand, _, agree => bind_same (expression_congr operand agree) _
  | .binary op left right, _, agree => by
    obtain ⟨front, behind⟩ := agreeOn_append.1 agree
    apply bind_congr (expression_congr left front) behind
    intro first later agree
    exact bind_same (expression_congr right agree) _
  | .cond test consequence none, _, agree => by
    obtain ⟨front, behind⟩ := agreeOn_append.1 agree
    apply bind_congr (expression_congr test front) behind
    intro chosen later agree
    by_cases truthy : chosen.isTruthy
    · simp only [truthy, if_true] at agree ⊢
      exact statements_congr consequence agree
    · simp only [truthy]
      rfl
  | .cond test consequence (some alternative), _, agree => by
    obtain ⟨front, behind⟩ := agreeOn_append.1 agree
    apply bind_congr (expression_congr test front) behind
    intro chosen later agree
    by_cases truthy : chosen.isTruthy
    · simp only [truthy, if_true] at agree ⊢
      exact statements_congr consequence agree
    · simp only [truthy] at agree ⊢
      exact statements_congr alternative agree
  | .fn parameters body, _, _ => rfl
  | .call callee arguments, _, agree => by
    obtain ⟨front, behind⟩ := agreeOn_append.1 agree
    apply bind_congr (expression_congr callee front) behind
    intro value later agree
    cases value with
    | function id function =>
      obtain ⟨front, behind⟩ := agreeOn_append.1 agree
      apply bind_congr (expressions_congr arguments front) behind
      intro given last agree
      exact agree ⟨function, given, last⟩ List.mem_cons_self
    | _ => rfl
termination_by structural e => e

theorem expressions_congr : ∀ (es : List Expr) {store : Store},
    AgreeOn one other (callsOfExpressions one scope es store) →
      expressions one scope es store = expressions other scope es store
  | [], _, _ => rfl
  | argument :: arguments, _, agree => by
    obtain ⟨front, behind⟩ := agreeOn_append.1 agree
    apply bind_congr (expression_congr argument front) behind
    intro value later agree
    exact bind_same (expressions_congr arguments agree) _
termination_by structural es => es

theorem statement_congr : ∀ (s : Stmt) {store : Store},
    AgreeOn one other (callsOfStatement one scope s store) →
      statement one scope s store = statement other scope s store
  | .letStmt _ value, _, agree => bind_same (expression_congr value agree) _
  | .returnStmt value, _, agree => bind_same (expression_congr value agree) _
  | .exprStmt value, _, agree => expression_congr value agree
termination_by structural s => s

theorem statements_congr : ∀ (ss : List Stmt) {store : Store} {last : Object},
    AgreeOn one other (callsOfStatements one scope ss store) →
      statements one scope last ss store = statements other scope last ss store
  | [], _, _, _ => rfl
  | first :: rest, _, _, agree => by
    obtain ⟨front, behind⟩ := agreeOn_append.1 agree
    apply bind_congr (statement_congr first front) behind
    intro value later agree
    exact statements_congr rest agree
termination_by structural ss => ss

end

theorem run_congr (node : Node) (agree : AgreeOn one other (callsOf one scope node store)) :
    run one scope node store = run other scope node store := by
  cases node with
  | program program => exact catchReturn_congr (statements_congr program agree)
  | block body => exact statements_congr body agree
  | statement stmt => exact statement_congr stmt agree
  | expression expr => exact expression_congr expr agree

end Eval

end Monkey
