import Monkey.Proofs.Parse.EndMarker

/-!
Climbing in stages. An expression may be read at a strong level first, and the expression that this
gives be carried on at a weaker level from where the first stage stopped. Nothing tells the two
stages from reading at the weaker level at once: not the tree or the error, not the tokens left, and
not the mistakes recorded in blocks on the way.
-/
namespace Monkey

open Supply

namespace Step

variable {σ α β : Type}

theorem andThen_congr {step : Step σ α} {next other : α → σ → Step σ β}
    (same : ∀ value, next value step.rest = other value step.rest) :
    step.andThen next = step.andThen other := by
  obtain ⟨result, recorded, rest⟩ := step
  cases result with
  | ok value => exact congrArg (after recorded) (same value)
  | error error => rfl

end Step

namespace Parse
open Grammar

variable {σ : Type} [Supply σ] {weaker stronger level : Level} {tokens : σ} {left : Expr}

def Carries (level : Level) (tokens : σ) (continuation : Continuation) : Prop :=
  ∃ token, peek? tokens = some token ∧ Continuation.ofKind? token.kind = some continuation ∧
    level < continuation.level

theorem Carries.weaken {continuation : Continuation} (le : weaker ≤ stronger)
    (carries : Carries stronger tokens continuation) : Carries weaker tokens continuation := by
  obtain ⟨token, seen, spelled, above⟩ := carries
  exact ⟨token, seen, spelled, Level.lt_of_le_of_lt le above⟩

theorem climb_of_operator {op : BinaryOp} (carries : Carries level tokens (.operator op)) :
    climb level left tokens = (expression op.level (advance tokens)).andThen fun right =>
      climb level (.binary op left right) := by
  obtain ⟨token, seen, spelled, above⟩ := carries
  rw [climb_eq, seen]
  simp only [spelled]
  exact if_pos above

theorem climb_of_arguments (carries : Carries level tokens .arguments) :
    climb level left tokens = (arguments (advance tokens)).andThen fun given =>
      climb level (.call left given) := by
  obtain ⟨token, seen, spelled, above⟩ := carries
  rw [climb_eq, seen]
  simp only [spelled]
  exact if_pos above

theorem climb_of_stops (stops : ∀ continuation, ¬ Carries level tokens continuation) :
    climb level left tokens = .ok left tokens := by
  rw [climb_eq]
  cases seen : peek? tokens with
  | none => rfl
  | some token =>
    cases spelled : Continuation.ofKind? token.kind with
    | none => simp only [spelled]
    | some continuation =>
      simp only [spelled]
      exact if_neg fun above => stops continuation ⟨token, seen, spelled, above⟩

/-- One turn of the loop, whatever it reads behind the token that carries the expression on. -/
theorem andThen_climb_resumed {α : Type} {turn : Step σ α} (extend : α → Expr)
    (later : ∀ left, climb weaker left turn.rest =
      (climb stronger left turn.rest).andThen (climb weaker)) :
    (turn.andThen fun value => climb weaker (extend value)) =
      (turn.andThen fun value => climb stronger (extend value)).andThen (climb weaker) := by
  rw [Step.andThen_assoc]
  exact Step.andThen_congr fun value => later (extend value)

theorem climb_resumed (le : weaker ≤ stronger) (left : Expr) (tokens : σ) :
    climb weaker left tokens = (climb stronger left tokens).andThen (climb weaker) := by
  -- while the stronger loop goes on both take the same turns, and each turn leaves fewer tokens
  induction smaller : size tokens using Nat.strongRecOn generalizing left tokens with
  | ind n ih =>
    by_cases goesOn : ∃ continuation, Carries stronger tokens continuation
    · obtain ⟨continuation, carries⟩ := goesOn
      have less : size (advance tokens) < n := by
        obtain ⟨token, seen, -⟩ := carries
        exact smaller ▸ size_advance_lt seen
      have later {rest : σ} (fewer : size rest ≤ size (advance tokens)) (left : Expr) :
          climb weaker left rest = (climb stronger left rest).andThen (climb weaker) :=
        ih (size rest) (Nat.lt_of_le_of_lt fewer less) left rest rfl
      cases continuation with
      | operator op =>
        rw [climb_of_operator carries, climb_of_operator (carries.weaken le)]
        exact andThen_climb_resumed (Expr.binary op left) (later (size_expression_rest_le ..))
      | arguments =>
        rw [climb_of_arguments carries, climb_of_arguments (carries.weaken le)]
        exact andThen_climb_resumed (Expr.call left) (later (size_arguments_rest_le _))
    · -- the stronger loop stops at once, and all is left to the weaker one
      rw [climb_of_stops (not_exists.1 goesOn), Step.andThen_ok]

theorem expression_resumed (le : weaker ≤ stronger) (tokens : σ) :
    expression weaker tokens = (expression stronger tokens).andThen (climb weaker) := by
  rw [expression_eq, expression_eq, Step.andThen_assoc]
  exact Step.andThen_congr fun left => climb_resumed le left _

theorem not_carries_call (continuation : Continuation) : ¬ Carries .call tokens continuation := by
  rintro ⟨token, -, -, above⟩
  cases continuation with
  | operator op => cases op <;> exact absurd above (by decide)
  | arguments => exact absurd above (by decide)

theorem expression_call (tokens : σ) : expression .call tokens = leading tokens := by
  rw [expression_eq, ← Step.map_id (leading tokens), Step.map_eq_andThen, Step.andThen_assoc]
  exact Step.andThen_congr fun left => climb_of_stops not_carries_call

theorem climb_rest_length_lt {tokens : List Token}
    (continues : Continues level (tokens.map Token.kind)) :
    (climb level left tokens).rest.length < tokens.length := by
  cases tokens with
  | nil => exact absurd continues (not_continues_nil level)
  | cons token rest =>
    apply Nat.lt_succ_of_le
    rcases continues_cons continues with ⟨op, spelled, above⟩ | ⟨kind, above⟩
    · rw [climb_operator spelled above]
      have reads := ((allRead rest).expression op.level).andThen fun {right us} _ =>
        (allRead us).climb level (.binary op left right)
      exact reads.rest_length_le
    · rw [climb_arguments kind above]
      have reads := (allRead rest).arguments.andThen fun {given us} _ =>
        (allRead us).climb level (.call left given)
      exact reads.rest_length_le

theorem climb_rest_eq_iff {tokens : List Token} :
    (climb level left tokens).rest = tokens ↔ ¬ Continues level (tokens.map Token.kind) := by
  constructor
  · intro same continues
    exact Nat.ne_of_lt (climb_rest_length_lt continues) (congrArg List.length same)
  · intro stops
    rw [climb_of_not_continues stops]
    rfl

end Parse

namespace Parser
open Parse Grammar

variable {α β : Type} {parser between after : Parser}

def climb (parser : Parser) (level : Level) (left : Expr) : Except ParseError Expr × Parser :=
  parser.run (Parse.climb level left)

def andThen (reading : Except ParseError α × Parser)
    (next : α → Parser → Except ParseError β × Parser) : Except ParseError β × Parser :=
  match reading with
  | (.ok value, between) => next value between
  | (.error error, between) => (.error error, between)

/-- Takes the next token. The end marker is never taken. -/
def next? (parser : Parser) : Option (Token × Parser) :=
  parser.source.next?.map fun (token, rest) => (token, ⟨rest, parser.pending⟩)

def leading (parser : Parser) : Except ParseError Expr × Parser :=
  match parser.next? with
  | none => (.error (.prematureEnd .expression), parser)
  | some (token, rest) => rest.operand token

theorem Takes.append {first more : List Token} (early : parser.Takes first between)
    (late : between.Takes more after) : parser.Takes (first ++ more) after where
  free token member := (List.mem_append.1 member).elim (early.free token) (late.free token)
  tokens := by rw [early.tokens, late.tokens, List.append_assoc]

theorem run_andThen {read : TokenSource → Step TokenSource α}
    {next : α → TokenSource → Step TokenSource β} :
    parser.run (fun tokens => (read tokens).andThen next) =
      andThen (parser.run read) fun value between => between.run (next value) := by
  simp only [run]
  generalize read parser.source = step
  obtain ⟨result, recorded, rest⟩ := step
  cases result with
  | error error => rfl
  | ok value => simp only [andThen, Step.andThen, Step.after, List.append_assoc]

theorem expression_call_eq_leading (parser : Parser) :
    parser.expression .call = parser.leading := by
  show parser.run (Parse.expression .call) = parser.leading
  rw [funext expression_call]
  unfold run Parse.leading leading next?
  cases taken : parser.source.next? with
  | none =>
    rw [show Supply.next? parser.source = none from taken]
    simp [Step.fail]
  | some step =>
    rw [show Supply.next? parser.source = some step from taken]
    rfl

theorem expression_in_stages {weaker stronger : Level} (le : weaker ≤ stronger) (parser : Parser) :
    parser.expression weaker =
      andThen (parser.expression stronger) fun left between => between.climb weaker left := by
  show parser.run (Parse.expression weaker) = _
  rw [funext (expression_resumed le)]
  exact run_andThen

theorem expression_takes {level : Level} {left : Expr}
    (read : parser.expression level = (.ok left, after)) : ∃ used, parser.Takes used after := by
  obtain ⟨used, taken, -⟩ := run_takes
    (fun _ => (matching_inFront _).expression level)
    ((allRead parser.readable).expression level).suffix
  have stands : (parser.run (Parse.expression level)).2 = after := congrArg Prod.snd read
  rw [stands] at taken
  exact ⟨used, taken⟩

/-- The loop takes tokens in front of the end marker, and none exactly if the next token does not
carry the expression on. -/
theorem climb_takes (parser : Parser) (level : Level) (left : Expr) :
    ∃ more, parser.Takes more (parser.climb level left).2 ∧
      (more = [] ↔ ¬ Continues level (parser.readable.map Token.kind)) := by
  obtain ⟨more, taken, nothing⟩ := run_takes
    (fun _ => (matching_inFront _).climb level left)
    ((allRead parser.readable).climb level left).suffix
  exact ⟨more, taken, nothing.trans climb_rest_eq_iff⟩

/-- Reading an expression at a level is reading it at a stronger one and carrying on at the weaker
one the expression that this gave, if it gave one: the result, the tokens left and the mistakes
recorded are the same. The stronger reading takes the first of the tokens that the weaker one takes,
and all of them exactly if the token that it stopped at does not carry on an expression of the
weaker level. At the level of calls an operand is read and nothing is carried on. -/
theorem climbing_can_be_resumed (parser : Parser) :
    (∀ {weaker stronger : Level}, weaker ≤ stronger →
      parser.expression weaker =
        andThen (parser.expression stronger) (fun left between => between.climb weaker left) ∧
      ∀ {left between}, parser.expression stronger = (.ok left, between) →
        ∃ first more, parser.Takes first between ∧
          parser.Takes (first ++ more) (parser.expression weaker).2 ∧
          (more = [] ↔ ¬ Continues weaker (between.readable.map Token.kind))) ∧
    parser.expression .call = parser.leading := by
  refine ⟨?_, expression_call_eq_leading parser⟩
  intro weaker stronger le
  have stages := expression_in_stages le parser
  refine ⟨stages, ?_⟩
  intro left between early
  have resumed : parser.expression weaker = between.climb weaker left := by
    rw [stages, early]
    rfl
  obtain ⟨first, taken⟩ := expression_takes early
  obtain ⟨more, later, nothing⟩ := between.climb_takes weaker left
  rw [resumed]
  exact ⟨first, more, taken, taken.append later, nothing⟩

theorem product_is_carried_on :
    let parser := ofTokens (lex "2 * fn() \x7b let 5; \x7d + x == 3")
    let left : Expr := .binary .multiply (.int 2) (.fn [] [])
    let between : Parser :=
      ⟨.list (parser.tokens.drop 10), [.unexpectedToken .identifier ⟨.int "5", 15, 16⟩]⟩
    Level.lowest ≤ .sum ∧ parser.expression .sum = (.ok left, between) ∧
      parser.expression .lowest = between.climb .lowest left ∧
      ∃ first more, parser.Takes first between ∧
        parser.Takes (first ++ more) (parser.expression .lowest).2 ∧
        (more = [] ↔ ¬ Continues .lowest (between.readable.map Token.kind)) := by
  intro parser left between
  have le : Level.lowest ≤ .sum := by decide
  have early : parser.expression .sum = (.ok left, between) := by decide +kernel
  obtain ⟨stages, takes⟩ := (climbing_can_be_resumed parser).1 le
  rw [early] at stages
  exact ⟨le, early, stages, takes early⟩

end Parser

end Monkey
