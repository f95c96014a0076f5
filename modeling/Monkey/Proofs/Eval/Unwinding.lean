import Mathlib.Logic.Relation
import Monkey.Proofs.Eval.Frame

/-!
Unwinding. Whatever is being evaluated waits for one of its parts, which waits for a part of its
own, and so on inwards. If the innermost part ends in an error, all that wait for it end in that
error, in the store that it left. If it ends in a return, all do up to the nearest function or
program, which then gives the value returned.
-/
namespace Monkey.Eval

variable {α β : Type}

inductive Task
  | node (scope : ScopeId) (node : Node)
  | application (function : Function) (arguments : List Object)

/-- The moment when a task is begun, with calls nested at most `depth` deep from there on. -/
structure Moment where
  depth : Nat
  task : Task
  store : Store

namespace Moment

def outcome : Moment → Except Signal Object × Store
  | ⟨depth, .node scope node, store⟩ => run (apply depth) scope node store
  | ⟨depth, .application function arguments, store⟩ => apply depth function arguments store

def bodies : Moment → List BodyRun
  | ⟨depth, .node scope node, store⟩ => bodiesRun depth scope node store
  | ⟨depth, .application function arguments, store⟩ =>
    bodiesOfCall depth ⟨function, arguments, store⟩

end Moment

/-- The node at the first store waits for the other node, a part of it in the same scope, which is
begun at the second store. All that stands in front of the part gave values. -/
inductive WaitsFor (call : Call) (scope : ScopeId) : Node → Store → Node → Store → Prop
  | operand (op : UnaryOp) (operand : Expr) (store : Store) :
    WaitsFor call scope (.expression (.unary op operand)) store (.expression operand) store
  | left (op : BinaryOp) (left right : Expr) (store : Store) :
    WaitsFor call scope (.expression (.binary op left right)) store (.expression left) store
  | right (op : BinaryOp) {left : Expr} (right : Expr) {store later : Store} {value : Object}
    (gives : expression call scope left store = (.ok value, later)) :
    WaitsFor call scope (.expression (.binary op left right)) store (.expression right) later
  | test (test : Expr) (consequence : Block) (alternative : Option Block) (store : Store) :
    WaitsFor call scope (.expression (.cond test consequence alternative)) store
      (.expression test) store
  | consequence {test : Expr} (consequence : Block) (alternative : Option Block)
    {store later : Store} {chosen : Object}
    (gives : expression call scope test store = (.ok chosen, later))
    (truthy : chosen.isTruthy = true) :
    WaitsFor call scope (.expression (.cond test consequence alternative)) store
      (.block consequence) later
  | alternative {test : Expr} (consequence alternative : Block) {store later : Store}
    {chosen : Object} (gives : expression call scope test store = (.ok chosen, later))
    (falsy : chosen.isTruthy = false) :
    WaitsFor call scope (.expression (.cond test consequence (some alternative))) store
      (.block alternative) later
  | callee (callee : Expr) (arguments : List Expr) (store : Store) :
    WaitsFor call scope (.expression (.call callee arguments)) store (.expression callee) store
  | argument {callee : Expr} (earlier : List Expr) (argument : Expr) (others : List Expr)
    {store middle later : Store} {id : ObjectId} {function : Function} {values : List Object}
    (callable : expression call scope callee store = (.ok (.function id function), middle))
    (gives : expressions call scope earlier middle = (.ok values, later)) :
    WaitsFor call scope (.expression (.call callee (earlier ++ argument :: others))) store
      (.expression argument) later
  | letStmt (name : String) (value : Expr) (store : Store) :
    WaitsFor call scope (.statement (.letStmt name value)) store (.expression value) store
  | returnStmt (value : Expr) (store : Store) :
    WaitsFor call scope (.statement (.returnStmt value)) store (.expression value) store
  | exprStmt (value : Expr) (store : Store) :
    WaitsFor call scope (.statement (.exprStmt value)) store (.expression value) store
  | statement (earlier : Block) (statement : Stmt) (others : Block) {store later : Store}
    {value : Object} (gives : block call scope earlier store = (.ok value, later)) :
    WaitsFor call scope (.block (earlier ++ statement :: others)) store (.statement statement) later

namespace Moment

/-- The one moment's task waits for the other's, and passes its signals on. -/
inductive Waits : Moment → Moment → Prop
  | part {depth : Nat} {scope : ScopeId} {outer inner : Node} {store later : Store}
    (waits : WaitsFor (apply depth) scope outer store inner later) :
    Waits ⟨depth, .node scope outer, store⟩ ⟨depth, .node scope inner, later⟩
  | application {depth : Nat} {scope : ScopeId} {callee : Expr} {arguments : List Expr}
    {store middle later : Store} {id : ObjectId} {function : Function} {given : List Object}
    (callable : expression (apply depth) scope callee store = (.ok (.function id function), middle))
    (gives : expressions (apply depth) scope arguments middle = (.ok given, later)) :
    Waits ⟨depth, .node scope (.expression (.call callee arguments)), store⟩
      ⟨depth, .application function given, later⟩

/-- The one moment's task waits for the other's, and stops the returns that come from it. -/
inductive Catches : Moment → Moment → Prop
  | program (depth : Nat) (scope : ScopeId) (program : Program) (store : Store) :
    Catches ⟨depth, .node scope (.program program), store⟩
      ⟨depth, .node scope (.block program), store⟩
  | body {depth : Nat} {function : Function} {arguments : List Object} {store start : Store}
    {scope : ScopeId} (enters : enter? function arguments store = some (scope, start)) :
    Catches ⟨depth + 1, .application function arguments, store⟩
      ⟨depth, .node scope (.block function.body), start⟩

def ReturnsTo : Moment → Moment → Prop := Relation.ReflTransGen fun outer inner => outer.Waits inner

def Within : Moment → Moment → Prop :=
  Relation.ReflTransGen fun outer inner => outer.Waits inner ∨ outer.Catches inner

/-- The task ended so, and no function body was run behind those that were run for the other. -/
structure EndsWith (outer inner : Moment) (result : Except Signal Object × Store) : Prop where
  outcome : outer.outcome = result
  last : inner.bodies <:+ outer.bodies

end Moment

theorem eq_of_bind_ok {step : Eval α} {next : α → Eval β} {store last : Store} {result : β}
    (gives : (step >>= next) store = (.ok result, last)) :
    ∃ value later, step store = (.ok value, later) ∧ next value later = (.ok result, last) := by
  cases ran : step store with
  | mk outcome later =>
    cases outcome with
    | ok value =>
      rw [bind_of_ok ran] at gives
      exact ⟨value, later, rfl, gives⟩
    | error stop =>
      rw [bind_of_error ran] at gives
      cases gives

theorem suffix_of_stops {step : Eval α} {store last : Store} {stop : Signal}
    {calls inner : List Activation} {next : α → Store → List Activation}
    (stops : step store = (.error stop, last)) (within : inner <:+ calls) :
    inner <:+ calls ++ callsBehind (step store) next := by
  rw [stops, callsBehind, List.append_nil]
  exact within

theorem suffix_of_gives {step : Eval α} {store later : Store} {value : α}
    {calls inner : List Activation} {next : α → Store → List Activation}
    (gives : step store = (.ok value, later)) (within : inner <:+ next value later) :
    inner <:+ calls ++ callsBehind (step store) next := by
  rw [gives]
  exact within.trans (List.suffix_append _ _)

section

variable {call : Call} {scope : ScopeId} {store later last : Store} {stop : Signal}

theorem statements_append {earlier : List Stmt} {start value : Object}
    (gives : statements call scope start earlier store = (.ok value, later)) (others : List Stmt) :
    statements call scope start (earlier ++ others) store =
        statements call scope value others later ∧
      callsOfStatements call scope others later <:+
        callsOfStatements call scope (earlier ++ others) store := by
  induction earlier generalizing store start with
  | nil =>
    cases gives
    exact ⟨rfl, List.suffix_refl _⟩
  | cons first earlier ih =>
    obtain ⟨between, middle, ran, gives⟩ := eq_of_bind_ok gives
    obtain ⟨same, behind⟩ := ih gives
    constructor
    · exact (bind_of_ok ran _).trans same
    · exact suffix_of_gives ran behind

theorem expressions_append {earlier others : List Expr} {values : List Object}
    (gives : expressions call scope earlier store = (.ok values, later))
    (stops : expressions call scope others later = (.error stop, last)) :
    expressions call scope (earlier ++ others) store = (.error stop, last) ∧
      callsOfExpressions call scope others later <:+
        callsOfExpressions call scope (earlier ++ others) store := by
  induction earlier generalizing store values with
  | nil =>
    cases gives
    exact ⟨stops, List.suffix_refl _⟩
  | cons first earlier ih =>
    obtain ⟨value, middle, ran, gives⟩ := eq_of_bind_ok gives
    obtain ⟨values, between, gives, final⟩ := eq_of_bind_ok gives
    cases final
    obtain ⟨same, behind⟩ := ih gives
    constructor
    · exact (bind_of_ok ran _).trans (bind_of_error same _)
    · exact suffix_of_gives ran behind

theorem argument_stops {callee argument : Expr} {earlier : List Expr} (others : List Expr)
    {middle : Store} {id : ObjectId} {function : Function} {values : List Object}
    (callable : expression call scope callee store = (.ok (.function id function), middle))
    (gives : expressions call scope earlier middle = (.ok values, later))
    (stops : expression call scope argument later = (.error stop, last)) :
    expression call scope (.call callee (earlier ++ argument :: others)) store =
        (.error stop, last) ∧
      callsOfExpression call scope argument later <:+
        callsOfExpression call scope (.call callee (earlier ++ argument :: others)) store := by
  have rest : expressions call scope (argument :: others) later = (.error stop, last) :=
    bind_of_error stops _
  obtain ⟨same, behind⟩ := expressions_append gives rest
  constructor
  · exact (bind_of_ok callable _).trans (bind_of_error same _)
  · have first : callsOfExpression call scope argument later <:+
        callsOfExpressions call scope (argument :: others) later :=
      suffix_of_stops stops (List.suffix_refl _)
    exact suffix_of_gives callable (suffix_of_stops same (first.trans behind))

theorem consequence_taken {test : Expr} (consequence : Block) (alternative : Option Block)
    {chosen : Object} (gives : expression call scope test store = (.ok chosen, later))
    (truthy : chosen.isTruthy = true) :
    expression call scope (.cond test consequence alternative) store =
        block call scope consequence later ∧
      callsOfStatements call scope consequence later <:+
        callsOfExpression call scope (.cond test consequence alternative) store := by
  cases alternative <;> refine ⟨(bind_of_ok gives _).trans ?_, suffix_of_gives gives ?_⟩ <;>
    simp only [truthy, if_true, block, List.suffix_refl]

theorem alternative_taken {test : Expr} (consequence alternative : Block) {chosen : Object}
    (gives : expression call scope test store = (.ok chosen, later))
    (falsy : chosen.isTruthy = false) :
    expression call scope (.cond test consequence (some alternative)) store =
        block call scope alternative later ∧
      callsOfStatements call scope alternative later <:+
        callsOfExpression call scope (.cond test consequence (some alternative)) store := by
  refine ⟨(bind_of_ok gives _).trans ?_, suffix_of_gives gives ?_⟩ <;>
    simp only [falsy, Bool.false_eq_true, if_false, block, List.suffix_refl]

theorem WaitsFor.stops {outer inner : Node} (waits : WaitsFor call scope outer store inner later)
    (stops : run call scope inner later = (.error stop, last)) :
    run call scope outer store = (.error stop, last) ∧
      callsOf call scope inner later <:+ callsOf call scope outer store := by
  cases waits with
  | operand op operand => exact ⟨bind_of_error stops _, List.suffix_refl _⟩
  | left op left right => exact ⟨bind_of_error stops _, suffix_of_stops stops (List.suffix_refl _)⟩
  | right op right gives =>
    constructor
    · exact (bind_of_ok gives _).trans (bind_of_error stops _)
    · exact suffix_of_gives gives (List.suffix_refl _)
  | test test consequence alternative =>
    cases alternative with
    | none => exact ⟨bind_of_error stops _, suffix_of_stops stops (List.suffix_refl _)⟩
    | some alternative => exact ⟨bind_of_error stops _, suffix_of_stops stops (List.suffix_refl _)⟩
  | consequence consequence alternative gives truthy =>
    obtain ⟨same, calls⟩ := consequence_taken consequence alternative gives truthy
    exact ⟨same.trans stops, calls⟩
  | alternative consequence alternative gives falsy =>
    obtain ⟨same, calls⟩ := alternative_taken consequence alternative gives falsy
    exact ⟨same.trans stops, calls⟩
  | callee callee arguments =>
    exact ⟨bind_of_error stops _, suffix_of_stops stops (List.suffix_refl _)⟩
  | argument earlier argument others callable gives =>
    exact argument_stops others callable gives stops
  | letStmt name value => exact ⟨bind_of_error stops _, List.suffix_refl _⟩
  | returnStmt value => exact ⟨bind_of_error stops _, List.suffix_refl _⟩
  | exprStmt value => exact ⟨stops, List.suffix_refl _⟩
  | statement earlier statement others gives =>
    obtain ⟨same, behind⟩ := statements_append gives (statement :: others)
    constructor
    · exact same.trans (bind_of_error stops _)
    · exact (suffix_of_stops stops (List.suffix_refl _)).trans behind

end

theorem flatMap_suffix {calls inner : List Activation} (f : Activation → List BodyRun)
    (within : inner <:+ calls) : inner.flatMap f <:+ calls.flatMap f := by
  obtain ⟨front, rfl⟩ := within
  rw [List.flatMap_append]
  exact List.suffix_append _ _

namespace Moment

variable {outer middle inner : Moment} {last : Store}

theorem Waits.ends {stop : Signal} (waits : outer.Waits inner)
    (stops : inner.outcome = (.error stop, last)) : outer.EndsWith inner (.error stop, last) := by
  cases waits with
  | part waits =>
    obtain ⟨same, calls⟩ := waits.stops stops
    exact ⟨same, flatMap_suffix _ calls⟩
  | @application depth scope callee arguments store _ later _ function given callable gives =>
    have made : [⟨function, given, later⟩] <:+
        callsOfExpression (apply depth) scope (.call callee arguments) store :=
      suffix_of_gives callable (suffix_of_gives gives (List.suffix_refl _))
    have bodies := flatMap_suffix (bodiesOfCall depth) made
    rw [List.flatMap_singleton] at bodies
    exact ⟨(bind_of_ok callable _).trans ((bind_of_ok gives _).trans stops), bodies⟩

theorem Catches.bodies (catches : outer.Catches inner) : inner.bodies <:+ outer.bodies := by
  cases catches with
  | program depth scope program store => exact List.suffix_refl _
  | body enters =>
    simp only [Moment.bodies, bodiesOfCall, enters]
    exact List.suffix_cons _ _

/-- A function or program comes to what its body comes to, returns apart. -/
theorem Catches.outcome (catches : outer.Catches inner) :
    ∃ step : Eval Object, step inner.store = inner.outcome ∧
      outer.outcome = catchReturn step inner.store := by
  cases catches with
  | program depth scope program store => exact ⟨_, rfl, rfl⟩
  | @body depth function arguments store start scope enters =>
    refine ⟨block (apply depth) scope function.body, rfl, ?_⟩
    show apply (depth + 1) function arguments store = _
    rw [apply_succ, enters]

theorem Catches.ends_failed {cause : EvalError} (catches : outer.Catches inner)
    (fails : inner.outcome = (.error (.failed cause), last)) :
    outer.EndsWith inner (.error (.failed cause), last) := by
  obtain ⟨step, same, caught⟩ := catches.outcome
  refine ⟨?_, catches.bodies⟩
  rw [caught, catchReturn, same, fails]

theorem Catches.ends_returned {value : Object} (catches : outer.Catches inner)
    (returns : inner.outcome = (.error (.returned value), last)) :
    outer.EndsWith inner (.ok value, last) := by
  obtain ⟨step, same, caught⟩ := catches.outcome
  refine ⟨?_, catches.bodies⟩
  rw [caught, catchReturn, same, returns]

theorem EndsWith.trans {result final : Except Signal Object × Store}
    (first : middle.EndsWith inner result) (second : outer.EndsWith middle final) :
    outer.EndsWith inner final :=
  ⟨second.outcome, first.last.trans second.last⟩

theorem Within.ends_failed {cause : EvalError} (within : outer.Within inner)
    (fails : inner.outcome = (.error (.failed cause), last)) :
    outer.EndsWith inner (.error (.failed cause), last) := by
  induction within using Relation.ReflTransGen.head_induction_on with
  | refl => exact ⟨fails, List.suffix_refl _⟩
  | head step _ ih =>
    rcases step with waits | catches
    · exact ih.trans (waits.ends ih.outcome)
    · exact ih.trans (catches.ends_failed ih.outcome)

theorem ReturnsTo.within (returnsTo : outer.ReturnsTo inner) : outer.Within inner :=
  Relation.ReflTransGen.mono (fun _ _ waits => .inl waits) _ _ returnsTo

theorem ReturnsTo.ends_returned {value : Object} (returnsTo : outer.ReturnsTo inner)
    (returns : inner.outcome = (.error (.returned value), last)) :
    outer.EndsWith inner (.error (.returned value), last) := by
  induction returnsTo using Relation.ReflTransGen.head_induction_on with
  | refl => exact ⟨returns, List.suffix_refl _⟩
  | head waits _ ih => exact ih.trans (waits.ends ih.outcome)

end Moment

/-- An error ends all that waits for the part it comes from in that error and in the store that the
part left, and a whole node gives its error object. A return does so up to the nearest function or
program, which gives the value. In either case nothing is run behind that part. -/
theorem signals_unwind {inner : Moment} {last : Store} :
    (∀ cause, inner.outcome = (.error (.failed cause), last) →
      (∀ outer : Moment, outer.Within inner →
        outer.EndsWith inner (.error (.failed cause), last)) ∧
      ∀ depth scope node store, Moment.Within ⟨depth, .node scope node, store⟩ inner →
        Eval.node depth scope node store =
          (some (.error last.nextId cause), { last with nextId := last.nextId + 1 })) ∧
    ∀ value, inner.outcome = (.error (.returned value), last) →
      ∀ middle : Moment, middle.ReturnsTo inner →
        middle.EndsWith inner (.error (.returned value), last) ∧
        (∀ outer : Moment, outer.Catches middle → outer.EndsWith inner (.ok value, last)) ∧
        ∀ depth scope program store,
          Moment.Catches ⟨depth, .node scope (.program program), store⟩ middle →
          Eval.program depth scope program store = (some value, last) := by
  constructor
  · intro cause fails
    refine ⟨fun outer within => within.ends_failed fails, ?_⟩
    intro depth scope node store within
    have ended : run (apply depth) scope node store = _ := (within.ends_failed fails).outcome
    rw [node_eq, ended]
    rfl
  · intro value returns middle returnsTo
    have unwound := returnsTo.ends_returned returns
    refine ⟨unwound, fun outer catches => unwound.trans (catches.ends_returned unwound.outcome), ?_⟩
    intro depth scope program store catches
    have ended : run (apply depth) scope (.program program) store = _ :=
      (catches.ends_returned unwound.outcome).outcome
    rw [Eval.program, node_eq, ended]
    rfl

/-- The function `fn(x) { 1 + if (x) { return ... } }`, which returns what the operator makes of its
argument. -/
def leaving (op : UnaryOp) : Function :=
  ⟨["x"], [.exprStmt (.binary .plus (.int 1)
    (.cond (.ident "x") [.returnStmt (.unary op (.ident "x"))] none))], 0⟩

def leavingCalled (op : UnaryOp) : Program :=
  [.letStmt "r" (.call (.fn (leaving op).parameters (leaving op).body) [.bool true])]

def leavingStore (nextId : ObjectId) : Store :=
  ⟨#[⟨[], none⟩, ⟨[("x", .ofBool true)], some 0⟩], nextId⟩

theorem lookup_leaving :
    lookup 1 "x" (leavingStore 5) = (.ok (.ofBool true), leavingStore 5) := by
  have bound : (leavingStore 5).get? 1 "x" = some (.ofBool true) := by decide +kernel
  rw [lookup, bound]

theorem leaving_returnsTo (op : UnaryOp) :
    Moment.ReturnsTo ⟨0, .node 1 (.block (leaving op).body), leavingStore 4⟩
      ⟨0, .node 1 (.statement (.returnStmt (.unary op (.ident "x")))), leavingStore 5⟩ := by
  apply Relation.ReflTransGen.head (.part (.statement [] _ [] rfl))
  apply Relation.ReflTransGen.head (.part (.exprStmt _ _))
  apply Relation.ReflTransGen.head (.part (.right _ _ rfl))
  apply Relation.ReflTransGen.head (.part (.consequence _ _ lookup_leaving rfl))
  exact Relation.ReflTransGen.single (.part (.statement [] _ [] rfl))

theorem leavingCalled_within (op : UnaryOp) :
    Moment.Within ⟨1, .node 0 (.program (leavingCalled op)), .initial⟩
      ⟨0, .node 1 (.block (leaving op).body), leavingStore 4⟩ := by
  apply Relation.ReflTransGen.head (.inr (.program _ _ _ _))
  apply Relation.ReflTransGen.head (.inl (.part (.statement [] _ [] rfl)))
  apply Relation.ReflTransGen.head (.inl (.part (.letStmt _ _ _)))
  apply Relation.ReflTransGen.head (.inl (.application rfl rfl))
  exact Relation.ReflTransGen.single (.inr (.body rfl))

theorem leaving_unwinds :
    Eval.node 1 0 (.program (leavingCalled .minus)) .initial =
        (some (.error 5 (.unknownUnary .boolean .minus)), leavingStore 6) ∧
      apply 1 (leaving .bang) [.ofBool true] ⟨#[⟨[], none⟩], 4⟩ =
        (.ok (.ofBool false), leavingStore 5) := by
  have fails : (Moment.mk 0 (.node 1 (.statement (.returnStmt (.unary .minus (.ident "x")))))
      (leavingStore 5)).outcome =
        (.error (.failed (.unknownUnary .boolean .minus)), leavingStore 5) :=
    bind_of_error ((bind_of_ok lookup_leaving _).trans rfl) _
  have returns : (Moment.mk 0 (.node 1 (.statement (.returnStmt (.unary .bang (.ident "x")))))
      (leavingStore 5)).outcome = (.error (.returned (.ofBool false)), leavingStore 5) :=
    (bind_of_ok ((bind_of_ok lookup_leaving _).trans rfl) _).trans rfl
  constructor
  · have inside := (leaving_returnsTo .minus).within
    exact (signals_unwind.1 _ fails).2 _ _ _ _ ((leavingCalled_within .minus).trans inside)
  · have caught := (signals_unwind.2 _ returns _ (leaving_returnsTo .bang)).2.1
    exact (caught ⟨1, .application (leaving .bang) [.ofBool true], _⟩ (.body rfl)).outcome

end Monkey.Eval
