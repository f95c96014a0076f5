import Monkey.Object.Inspect
import Monkey.Proofs.Eval.Linked
import Monkey.Proofs.Eval.Session
import Monkey.Proofs.Eval.Signals
import Monkey.Proofs.Eval.Written
import Monkey.Proofs.Render.Rereading

/-!
Functions from value to text and back. If all that was run were programs that had been read from
texts, then every function that came of it, wherever it is bound, is made of names, numbers and
strings that can be written down. So what it shows reads as the function literal that it is, and
that literal, evaluated where the function was made, gives an equal function.
-/
namespace Monkey

/-- An expression that can be written down is read back from its text, if it has no test that would
be refused there. -/
theorem parse_render {e : Expr} (writable : e.Writable) (tests : e.TestsOperate) :
    parse e.render = .ok [.exprStmt e] := by
  have lexical : e.Lexical := writable.imp (fun _ => Expr.NodeWritable.lexical) fun _ node => node
  have cuts := e.cuts lexical Token.apart_nil .done
  rw [List.append_nil, List.append_nil] at cuts
  have whole := (e.derived writable tests).1.loosen (Level.le_call .lowest)
  have derived := Grammar.Statements.bare (.exprStmt whole) (Grammar.not_continues_nil _) .nil
  rw [List.append_nil] at derived
  exact (parse_eq_ok_iff cuts).2 derived

theorem Function.inspect_eq_render (f : Function) :
    f.inspect = (Expr.fn f.parameters f.body).render := by
  rw [Expr.render]
  rfl

theorem Eval.ends_of_program_gives {depth : Nat} {scope : ScopeId} {program : Program}
    {store later : Store} {value : Object}
    (gives : Eval.program depth scope program store = (some value, later)) :
    Eval.run (apply depth) scope (.program program) store = (.ok value, later) ∨
      ∃ cause last, Eval.run (apply depth) scope (.program program) store =
          (.error (.failed cause), last) ∧
        last.create (.error · cause) = (value, later) := by
  have caught : ∀ inner, (Eval.run (apply depth) scope (.program program) store).1 ≠
      .error (.returned inner) := catchReturn_ne_returned _ _
  rw [Eval.program, node_eq] at gives
  generalize Eval.run (apply depth) scope (.program program) store = result at gives caught
  obtain ⟨outcome, last⟩ := result
  cases outcome with
  | ok object =>
    cases gives
    exact .inl rfl
  | error stop =>
    cases stop with
    | returned inner => exact absurd rfl (caught inner)
    | failed cause =>
      cases gives
      exact .inr ⟨cause, last, rfl, rfl⟩
    | exhausted => cases gives

def Object.SourcedIn (object : Object) (store : Store) : Prop :=
  object.Written Expr.NodeWritable Stmt.NodeWritable ∧ object.FitsIn store

namespace Session

/-- What is done by someone who opens scopes and runs texts in them, and does nothing else. A text
in which calls are nested too deeply puts an end to everything. -/
inductive Runs (session : Session) : Session → Prop
  | openScope {outer : Option ScopeId} (known : ∀ scope, outer = some scope → session.Knows scope) :
    Runs session { session with store := (session.store.openScope outer).2 }
  | run {source : String} {program : Program} (parsed : parse source = .ok program) (depth : Nat)
    {scope : ScopeId} (known : session.Knows scope) {value : Object} {later : Store}
    (gives : Eval.program depth scope program session.store = (some value, later)) :
    Runs session ⟨later, value :: session.held⟩

def ReachedByRuns (session : Session) : Prop := Relation.ReflTransGen Runs start session

structure Sourced (session : Session) : Prop where
  written : session.store.Written Expr.NodeWritable Stmt.NodeWritable
  linked : session.store.Linked
  held : ∀ object ∈ session.held, object.isError = true ∨ object.SourcedIn session.store

variable {session next : Session}

theorem sourced_start : start.Sourced where
  written value binds := absurd binds (Store.not_binds_empty value)
  linked := Store.linked_empty
  held := nofun

theorem Sourced.later (sourced : session.Sourced) {later : Store}
    (grows : session.store.scopes.size ≤ later.scopes.size) :
    ∀ object ∈ session.held, object.isError = true ∨ object.SourcedIn later := fun object member =>
  (sourced.held object member).imp_right (And.imp_right fun fits => fits.later grows)

theorem Runs.sourced (runs : session.Runs next) (before : session.Sourced) : next.Sourced := by
  cases runs with
  | openScope known =>
    refine ⟨before.written.openScope _, before.linked.openScope known, before.later ?_⟩
    rw [Store.size_openScope]
    exact Nat.le_succ _
  | @run source program parsed depth scope known value later gives =>
    have text : (Node.program program).Throughout Expr.NodeWritable Stmt.NodeWritable :=
      writable_of_parse parsed
    have run := Eval.written_run depth scope text before.written
    have kept := Discipline.linked.kept_run depth scope (.program program) ⟨before.linked, known⟩
    have earlier := before.later kept.changes
    rcases Eval.ends_of_program_gives gives with ends | ⟨cause, last, ends, made⟩
    · rw [ends] at run kept earlier
      have given : value.SourcedIn later := ⟨run.good _ rfl, kept.good _ rfl⟩
      exact ⟨run.holds, kept.holds.1, List.forall_mem_cons.2 ⟨.inr given, earlier⟩⟩
    · rw [ends] at run kept earlier
      cases made
      exact ⟨run.holds.counted, ⟨kept.holds.1.nested, kept.holds.1.bound⟩,
        List.forall_mem_cons.2 ⟨.inl rfl, earlier⟩⟩

theorem ReachedByRuns.sourced (reached : session.ReachedByRuns) : session.Sourced := by
  induction reached with
  | refl => exact sourced_start
  | tail _ runs ih => exact runs.sourced ih

theorem Sourced.has (sourced : session.Sourced) {object : Object} (has : session.Has object) :
    object.isError = true ∨ object.SourcedIn session.store := by
  induction has with
  | held member => exact sourced.held _ member
  | bound binds => exact .inr ⟨sourced.written _ binds, sourced.linked.bound _ binds⟩
  | inner outside ih =>
    rcases ih with isError | ⟨written, -⟩
    · contradiction
    · exact written.elim

end Session

/-- If nothing but texts were run, any function in whose body every test is an operation shows a
text that reads as the literal with its parameters and body. Run in the scope that the function was
made in, which is there, the literal gives an equal function. -/
theorem functions_show_their_source {session : Session} (reached : session.ReachedByRuns)
    {id : ObjectId} {f : Function} (has : session.Has (.function id f))
    (tests : AllTestsOperate f.body) :
    parse (Object.function id f).inspect = .ok [.exprStmt (.fn f.parameters f.body)] ∧
    session.Knows f.scope ∧
    ∀ depth, ∃ object later,
      Eval.program depth f.scope [.exprStmt (.fn f.parameters f.body)] session.store =
        (some object, later) ∧ object.same (.function id f) = true := by
  rcases reached.sourced.has has with isError | ⟨writable, fits⟩
  · contradiction
  refine ⟨?_, fits _ (.function id f), fun depth => ⟨_, _, rfl, beq_self_eq_true f⟩⟩
  rw [Object.inspect, f.inspect_eq_render]
  exact parse_render writable ⟨trivial, tests⟩

/-- The body of a function that gives the greater of its parameter and what it finds as `x`. -/
def greaterOfBoth : Block :=
  [.exprStmt (.cond (.binary .lessThan (.ident "x") (.ident "y")) [.exprStmt (.ident "y")]
    (some [.exprStmt (.ident "x")]))]

def madeInCall : Program :=
  [.letStmt "above" (.fn ["x"] [.exprStmt (.fn ["y"] greaterOfBoth)]),
   .exprStmt (.call (.ident "above") [.int 2])]

theorem closure_shows_its_source :
    let opened : Store := (Store.empty.openScope none).2
    let session : Session :=
      ⟨(Eval.program 1 0 madeInCall opened).2, [.function 5 ⟨["y"], greaterOfBoth, 1⟩]⟩
    session.ReachedByRuns ∧
    parse "fn(y) {if (x < y) {y;} else {x;};}" = .ok [.exprStmt (.fn ["y"] greaterOfBoth)] ∧
    session.Knows 1 ∧
    ∃ object later, Eval.program 0 1 [.exprStmt (.fn ["y"] greaterOfBoth)] session.store =
      (some object, later) ∧ object.same (.function 5 ⟨["y"], greaterOfBoth, 1⟩) = true := by
  intro opened session
  have parsed : parse "let above = fn(x) { fn(y) { if (x < y) { y } else { x } } }; above(2)" =
      .ok madeInCall := Parse.parse_eq_ok_iff_reading.2 (by decide +kernel)
  have gives : Eval.program 1 0 madeInCall opened =
      (some (.function 5 ⟨["y"], greaterOfBoth, 1⟩), session.store) :=
    Prod.ext (by decide +kernel) rfl
  have first : Session.Runs .start ⟨opened, []⟩ := .openScope nofun
  have known : Session.Knows ⟨opened, []⟩ 0 := Nat.zero_lt_one
  have reached : session.ReachedByRuns := .tail (.single first) (.run parsed 1 known gives)
  have has : session.Has (.function 5 ⟨["y"], greaterOfBoth, 1⟩) := .held List.mem_cons_self
  have tests : AllTestsOperate greaterOfBoth := by
    simp [greaterOfBoth, AllThroughout, Stmt.Throughout, Expr.Throughout, Expr.NodeTestOperates,
      Expr.IsOperation]
  obtain ⟨read, there, gives⟩ := functions_show_their_source reached has tests
  have shown : (Object.function 5 ⟨["y"], greaterOfBoth, 1⟩).inspect =
      "fn(y) {if (x < y) {y;} else {x;};}" := by decide +kernel
  exact ⟨reached, shown ▸ read, there, gives 0⟩

end Monkey
