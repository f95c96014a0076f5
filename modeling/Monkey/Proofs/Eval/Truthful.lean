import Monkey.Proofs.Eval.Signals
import Monkey.Proofs.Eval.Written

/-!
Errors tell the truth. Whatever calls of whatever functions an error was raised in, it complains of
what is an error indeed, and a name that it did not find stands in the text that was evaluated or in
the body of a function that was there before.
-/
namespace Monkey

mutual

/-- The names that stand as expressions, also in the bodies of functions. -/
def Expr.used : Expr → List String
  | .ident name => [name]
  | .int _ => []
  | .string _ => []
  | .bool _ => []
  | .unary _ operand => operand.used
  | .binary _ left right => left.used ++ right.used
  | .cond test consequence none => test.used ++ usedInAll consequence
  | .cond test consequence (some alternative) =>
    test.used ++ usedInAll consequence ++ usedInAll alternative
  | .fn _ body => usedInAll body
  | .call callee arguments => callee.used ++ usedInEach arguments
termination_by structural e => e

def Stmt.used : Stmt → List String
  | .letStmt _ value => value.used
  | .returnStmt value => value.used
  | .exprStmt value => value.used
termination_by structural s => s

def usedInAll : List Stmt → List String
  | [] => []
  | statement :: statements => statement.used ++ usedInAll statements
termination_by structural ss => ss

def usedInEach : List Expr → List String
  | [] => []
  | argument :: arguments => argument.used ++ usedInEach arguments
termination_by structural es => es

end

def Node.used : Node → List String
  | .program body => usedInAll body
  | .block body => usedInAll body
  | .statement stmt => stmt.used
  | .expression expr => expr.used

def Expr.Names (Named : String → Prop) : Expr → Prop
  | .ident name => Named name
  | _ => True

def Stmt.Any (_ : Stmt) : Prop := True

section

variable {Named : String → Prop}

mutual

theorem Expr.throughout_of_used : ∀ {e : Expr}, (∀ name ∈ e.used, Named name) →
    e.Throughout (Expr.Names Named) Stmt.Any
  | .ident name, named => named name (List.mem_singleton.2 rfl)
  | .int _, _ => trivial
  | .string _, _ => trivial
  | .bool _, _ => trivial
  | .unary _ _, named => ⟨trivial, Expr.throughout_of_used named⟩
  | .binary _ _ _, named => by
    obtain ⟨left, right⟩ := List.forall_mem_append.1 named
    exact ⟨trivial, Expr.throughout_of_used left, Expr.throughout_of_used right⟩
  | .cond _ _ none, named => by
    obtain ⟨test, branch⟩ := List.forall_mem_append.1 named
    exact ⟨trivial, Expr.throughout_of_used test, allThroughout_of_used branch⟩
  | .cond _ _ (some _), named => by
    obtain ⟨front, other⟩ := List.forall_mem_append.1 named
    obtain ⟨test, branch⟩ := List.forall_mem_append.1 front
    exact ⟨trivial, Expr.throughout_of_used test, allThroughout_of_used branch,
      allThroughout_of_used other⟩
  | .fn _ _, named => ⟨trivial, allThroughout_of_used named⟩
  | .call _ _, named => by
    obtain ⟨callee, given⟩ := List.forall_mem_append.1 named
    exact ⟨trivial, Expr.throughout_of_used callee, eachThroughout_of_used given⟩
termination_by structural e => e

theorem Stmt.throughout_of_used : ∀ {s : Stmt}, (∀ name ∈ s.used, Named name) →
    s.Throughout (Expr.Names Named) Stmt.Any
  | .letStmt _ _, named => ⟨trivial, Expr.throughout_of_used named⟩
  | .returnStmt _, named => ⟨trivial, Expr.throughout_of_used named⟩
  | .exprStmt _, named => ⟨trivial, Expr.throughout_of_used named⟩
termination_by structural s => s

theorem allThroughout_of_used : ∀ {ss : List Stmt}, (∀ name ∈ usedInAll ss, Named name) →
    AllThroughout (Expr.Names Named) Stmt.Any ss
  | [], _ => trivial
  | _ :: _, named => by
    obtain ⟨first, others⟩ := List.forall_mem_append.1 named
    exact ⟨Stmt.throughout_of_used first, allThroughout_of_used others⟩
termination_by structural ss => ss

theorem eachThroughout_of_used : ∀ {es : List Expr}, (∀ name ∈ usedInEach es, Named name) →
    EachThroughout (Expr.Names Named) Stmt.Any es
  | [], _ => trivial
  | _ :: _, named => by
    obtain ⟨first, others⟩ := List.forall_mem_append.1 named
    exact ⟨Expr.throughout_of_used first, eachThroughout_of_used others⟩
termination_by structural es => es

end

theorem Node.throughout_of_used {node : Node} (named : ∀ name ∈ node.used, Named name) :
    node.Throughout (Expr.Names Named) Stmt.Any := by
  cases node with
  | program body => exact allThroughout_of_used named
  | block body => exact allThroughout_of_used named
  | statement stmt => exact Stmt.throughout_of_used named
  | expression expr => exact Expr.throughout_of_used named

end

def Store.Mentions (store : Store) (name : String) : Prop :=
  ∃ id function, store.Binds (.function id function) ∧ name ∈ usedInAll function.body

theorem Store.SignalFree.written {store : Store} (free : store.SignalFree) {Named : String → Prop}
    (named : ∀ name, store.Mentions name → Named name) :
    store.Written (Expr.Names Named) Stmt.Any := by
  intro value binds
  have ordinary := free value binds
  cases value with
  | function id f =>
    refine ⟨trivial, allThroughout_of_used ?_⟩
    intro name used
    exact named name ⟨id, f, binds, used⟩
  | returnValue | error => contradiction
  | integer | boolean | string | null => trivial

/-- If an evaluation ends in an error, a type mismatch is one of two different types and no test of
equality, an operator is unknown of one type that does not have it, what was called is no function,
and the numbers of arguments differ. The types are those of ordinary values. A name that was not
found is used in what was evaluated or in the body of a function that was there before. -/
theorem errors_are_truthful {store : Store} (free : store.SignalFree) {depth : Nat}
    {scope : ScopeId} {node : Node} {id : ObjectId} {cause : EvalError}
    (ends : (Eval.node depth scope node store).1 = some (.error id cause)) :
    cause.Truthful fun name => name ∈ node.used ∨ store.Mentions name := by
  let Named (name : String) : Prop := name ∈ node.used ∨ store.Mentions name
  have text : node.Throughout (Expr.Names Named) Stmt.Any :=
    Node.throughout_of_used fun _ used => .inl used
  have written : store.Written (Expr.Names Named) Stmt.Any :=
    free.written fun _ mentions => .inr mentions
  have run := Eval.written_run depth scope text written
  rw [Eval.node_eq] at ends
  have tells := Eval.tells_of_toObject? ends
  generalize outcome : (Eval.run (Eval.apply depth) scope node store).1 = result at tells
  cases tells with
  | value => exact (run.good _ outcome).elim
  | failed => exact (run.failed _ outcome).truthful

/-- A store in which `f` is a function without parameters that asks for `y`, which is not bound. -/
def lostName : Store :=
  Store.initial.set 0 "f" (.function 3 ⟨[], [.exprStmt (.ident "y")], 0⟩)

theorem lostName_is_in_the_function :
    let call : Node := .expression (.call (.ident "f") [])
    lostName.SignalFree ∧
      (Eval.node 1 0 call lostName).1 = some (.error 3 (.unknownIdentifier "y")) ∧
      "y" ∉ call.used ∧ lostName.Mentions "y" := by
  intro call
  have free : lostName.SignalFree := by
    intro value binds
    rcases Store.binds_of_set binds with rfl | before
    · rfl
    · exact Store.signalFree_initial value before
  have ends : (Eval.node 1 0 call lostName).1 = some (.error 3 (.unknownIdentifier "y")) := by
    decide +kernel
  have notUsed : "y" ∉ call.used := by decide
  exact ⟨free, ends, notUsed, (errors_are_truthful free ends).justified.resolve_left notUsed⟩

end Monkey
