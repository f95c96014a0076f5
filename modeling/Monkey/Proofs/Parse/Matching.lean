import Monkey.Parse.Parser

/-!
Readers see nothing of what they read from but its answers. Two supplies that answer alike now, and
after every token that is taken from both, are read alike: with the same result and the same mistakes
recorded, and what is left of them answers alike again.
-/
namespace Monkey
open Supply

variable {σ τ : Type} {R : σ → τ → Prop} {one : σ} {other : τ}

structure Step.Alike {α : Type} (R : σ → τ → Prop) (one : Step σ α) (other : Step τ α) : Prop where
  result : one.result = other.result
  recorded : one.recorded = other.recorded
  rest : R one.rest other.rest

def ReadAlike {α : Type} (R : σ → τ → Prop) (read : σ → Step σ α) (read' : τ → Step τ α) : Prop :=
  ∀ ⦃one other⦄, R one other → (read one).Alike R (read' other)

namespace Step.Alike

variable {α β : Type} {first : Step σ α} {second : Step τ α}

theorem ok (value : α) (related : R one other) : (Step.ok value one).Alike R (.ok value other) :=
  ⟨rfl, rfl, related⟩

theorem fail (error : ParseError) (related : R one other) :
    (Step.fail error one : Step σ α).Alike R (.fail error other) := ⟨rfl, rfl, related⟩

theorem after (recorded : List ParseError) (alike : first.Alike R second) :
    (first.after recorded).Alike R (second.after recorded) :=
  ⟨alike.result, congrArg (recorded ++ ·) alike.recorded, alike.rest⟩

theorem map (f : α → β) (alike : first.Alike R second) : (first.map f).Alike R (second.map f) :=
  ⟨congrArg (Except.map f) alike.result, alike.recorded, alike.rest⟩

theorem andThen {next : α → σ → Step σ β} {next' : α → τ → Step τ β} (alike : first.Alike R second)
    (goesOn : ∀ value, ReadAlike R (next value) (next' value)) :
    (first.andThen next).Alike R (second.andThen next') := by
  obtain ⟨result, recorded, rest⟩ := first
  obtain ⟨_, _, rest'⟩ := second
  obtain ⟨rfl, rfl, related⟩ := alike
  cases result with
  | ok value => exact (goesOn value related).after recorded
  | error error => exact ⟨rfl, rfl, related⟩

end Step.Alike

variable [Supply σ] {bound wider : Nat}

/-- They are related, and the first of them has so many tokens at most. -/
def AtMost (R : σ → τ → Prop) (bound : Nat) (one : σ) (other : τ) : Prop :=
  R one other ∧ size one ≤ bound

theorem AtMost.mono (le : bound ≤ wider) (related : AtMost R bound one other) :
    AtMost R wider one other := ⟨related.1, Nat.le_trans related.2 le⟩

theorem Step.Alike.widen {α : Type} {first : Step σ α} {second : Step τ α} (less : bound < wider)
    (alike : first.Alike (AtMost R bound) second) : first.Alike (AtMost R wider) second :=
  ⟨alike.result, alike.recorded, alike.rest.mono (Nat.le_of_lt less)⟩

theorem ReadAlike.of_atMost {α : Type} {read : σ → Step σ α} {read' : τ → Step τ α}
    (alike : ∀ bound, ReadAlike (AtMost R bound) read read') : ReadAlike R read read' := by
  intro one other related
  obtain ⟨result, recorded, rest, -⟩ := alike (size one) ⟨related, Nat.le_refl _⟩
  exact ⟨result, recorded, rest⟩

variable [Supply τ] {kind : Token.Kind}

/-- Supplies that are so related answer alike, but for the end marker, and are so related again
behind each token. -/
structure Matching (R : σ → τ → Prop) : Prop where
  next {one : σ} {other : τ} : R one other →
    next? one = none ∧ next? other = none ∨
      ∃ token rest rest', next? one = some (token, rest) ∧ next? other = some (token, rest') ∧
        R rest rest'
  take {kind : Token.Kind} {one : σ} {other : τ} : kind ≠ .eof → R one other →
    take? kind one = none ∧ take? kind other = none ∨
      ∃ rest rest', take? kind one = some rest ∧ take? kind other = some rest' ∧ R rest rest'

namespace AtMost

theorem next (matching : Matching R) (related : AtMost R bound one other) :
    next? one = none ∧ next? other = none ∨
      ∃ token rest rest' left, left < bound ∧ next? one = some (token, rest) ∧
        next? other = some (token, rest') ∧ AtMost R left rest rest' := by
  obtain ⟨related, le⟩ := related
  rcases matching.next related with ended | ⟨token, rest, rest', next, next', related⟩
  · exact .inl ended
  · have left := Nat.lt_of_lt_of_le (size_next? next) le
    exact .inr ⟨token, rest, rest', size rest, left, next, next', related, Nat.le_refl _⟩

theorem peek (matching : Matching R) (related : AtMost R bound one other) :
    peek? one = none ∧ peek? other = none ∨
      ∃ token left, left < bound ∧ peek? one = some token ∧ peek? other = some token ∧
        AtMost R left (advance one) (advance other) := by
  rw [peek?_eq, peek?_eq]
  rcases related.next matching with ⟨ended, ended'⟩ | ⟨token, _, _, left, less, next, next', behind⟩
  · rw [ended, ended']
    exact .inl ⟨rfl, rfl⟩
  · rw [advance_of_next? next, advance_of_next? next', next, next']
    exact .inr ⟨token, left, less, rfl, rfl, behind⟩

theorem take (matching : Matching R) (proper : kind ≠ .eof) (related : AtMost R bound one other) :
    take? kind one = none ∧ take? kind other = none ∨
      ∃ rest rest' left, left < bound ∧ take? kind one = some rest ∧
        take? kind other = some rest' ∧ AtMost R left rest rest' := by
  obtain ⟨related, le⟩ := related
  rcases matching.take proper related with absent | ⟨rest, rest', taken, taken', related⟩
  · exact .inl absent
  · have left := Nat.lt_of_lt_of_le (size_take? taken) le
    exact .inr ⟨rest, rest', size rest, left, taken, taken', related, Nat.le_refl _⟩

end AtMost

namespace Parse

variable {α : Type}

theorem expect_alike (matching : Matching R) (kind : Token.Kind) :
    ReadAlike (AtMost R bound) (expect kind) (expect kind) := by
  intro one other related
  unfold expect
  rcases related.next matching with ⟨ended, ended'⟩ | ⟨token, _, _, left, less, next, next', behind⟩
  · rw [ended, ended']
    exact .fail _ related
  · have behind := behind.mono (Nat.le_of_lt less)
    rw [next, next']
    dsimp only
    split
    · exact .ok _ behind
    · exact .fail _ behind

theorem identifier_alike (matching : Matching R) :
    ReadAlike (AtMost R bound) identifier identifier := by
  intro one other related
  unfold identifier
  rcases related.next matching with ⟨ended, ended'⟩ | ⟨token, _, _, left, less, next, next', behind⟩
  · rw [ended, ended']
    exact .fail _ related
  · have behind := behind.mono (Nat.le_of_lt less)
    rw [next, next']
    dsimp only
    split
    · exact .ok _ behind
    · exact .fail _ behind

theorem ifTaken_alike {behind absent : σ → Step σ α} {behind' absent' : τ → Step τ α}
    (matching : Matching R) (proper : kind ≠ .eof)
    (taken : ∀ left < bound, ReadAlike (AtMost R left) behind behind')
    (otherwise : ReadAlike (AtMost R bound) absent absent') :
    ReadAlike (AtMost R bound) (ifTaken kind behind absent) (ifTaken kind behind' absent') := by
  intro one other related
  rcases related.take matching proper with
    ⟨refused, refused'⟩ | ⟨rest, rest', left, less, found, found', behind⟩
  · rw [ifTaken_of_none refused, ifTaken_of_none refused']
    exact otherwise related
  · rw [ifTaken_of_some found, ifTaken_of_some found']
    exact (taken left less behind).widen less

theorem dropSemicolon_alike (matching : Matching R) (related : AtMost R bound one other) :
    AtMost R bound (dropSemicolon one) (dropSemicolon other) := by
  unfold dropSemicolon
  rcases related.take matching (by decide : Token.Kind.semicolon ≠ .eof) with
    ⟨absent, absent'⟩ | ⟨rest, rest', left, less, taken, taken', behind⟩
  · rw [absent, absent']
    exact related
  · rw [taken, taken']
    exact behind.mono (Nat.le_of_lt less)

theorem skip_alike (matching : Matching R) (place : Place) (depth : Nat)
    (related : AtMost R bound one other) :
    AtMost R bound (skip place depth one) (skip place depth other) := by
  induction bound using Nat.strongRecOn generalizing depth one other with
  | ind bound ih =>
    rw [skip_eq, skip_eq place depth other]
    rcases related.peek matching with ⟨ended, ended'⟩ | ⟨token, left, less, seen, seen', behind⟩
    · rw [ended, ended']
      exact related
    · have goesOn := fun depth => (ih left less depth behind).mono (Nat.le_of_lt less)
      rw [seen, seen']
      dsimp only
      repeat' split
      all_goals first
        | exact goesOn _
        | exact behind.mono (Nat.le_of_lt less)
        | exact related

theorem resumeAtTop_alike (matching : Matching R) (error : ParseError)
    (related : AtMost R bound one other) :
    AtMost R bound (resumeAtTop error one) (resumeAtTop error other) := by
  unfold resumeAtTop
  split
  · exact related
  · exact skip_alike matching .top 1 related
  · exact skip_alike matching .top 0 related

theorem resumeInBlock_alike (matching : Matching R) (error : ParseError)
    (related : AtMost R bound one other) :
    resumeInBlock error one = .abandoned ∧ resumeInBlock error other = .abandoned ∨
      resumeInBlock error one = .closed ∧ resumeInBlock error other = .closed ∨
      ∃ rest rest', resumeInBlock error one = .continues rest ∧
        resumeInBlock error other = .continues rest' ∧ AtMost R bound rest rest' := by
  unfold resumeInBlock
  split
  · exact .inl ⟨rfl, rfl⟩
  · exact .inr (.inl ⟨rfl, rfl⟩)
  · exact .inr (.inr ⟨_, _, rfl, rfl, related⟩)
  · exact .inr (.inr ⟨_, _, rfl, rfl, skip_alike matching .block 1 related⟩)
  · exact .inr (.inr ⟨_, _, rfl, rfl, skip_alike matching .block 0 related⟩)

theorem parameterList_alike (matching : Matching R) :
    ReadAlike (AtMost R bound) parameterList parameterList := by
  induction bound using Nat.strongRecOn with
  | ind bound ih =>
    intro one other related
    rw [parameterList_eq, parameterList_eq]
    apply (identifier_alike matching related).andThen
    intro name
    apply ifTaken_alike matching (by decide)
    · exact fun left less _ _ behind => (ih left less behind).map _
    · exact fun _ _ behind => (expect_alike matching .rparen behind).map _

theorem parameters_alike (matching : Matching R) :
    ReadAlike (AtMost R bound) parameters parameters := by
  intro one other related
  rw [parameters_eq, parameters_eq]
  refine ifTaken_alike matching (by decide) ?_ (parameterList_alike matching) related
  exact fun left less _ _ behind => .ok [] behind

structure AllAlike (R : σ → τ → Prop) : Prop where
  operand : ∀ token, ReadAlike R (operand token) (operand token)
  climb : ∀ level left, ReadAlike R (climb level left) (climb level left)
  expression : ∀ level, ReadAlike R (expression level) (expression level)
  argumentList : ReadAlike R argumentList argumentList
  arguments : ReadAlike R arguments arguments
  block : ReadAlike R block block
  blockRest : ReadAlike R blockRest blockRest
  statementFrom : ∀ token, ReadAlike R (statementFrom token) (statementFrom token)

theorem leading_alike (matching : Matching R) (below : ∀ left < bound, AllAlike (AtMost R left)) :
    ReadAlike (AtMost R bound) leading leading := by
  intro one other related
  unfold leading
  rcases related.next matching with ⟨ended, ended'⟩ | ⟨token, _, _, left, less, next, next', behind⟩
  · rw [ended, ended']
    exact .fail _ related
  · rw [next, next']
    exact ((below left less).operand token behind).widen less

theorem climb_alike (matching : Matching R) (below : ∀ left < bound, AllAlike (AtMost R left))
    (level : Level) (left : Expr) :
    ReadAlike (AtMost R bound) (climb level left) (climb level left) := by
  intro one other related
  rw [climb_eq, climb_eq level left other]
  rcases related.peek matching with ⟨ended, ended'⟩ | ⟨token, fewer, less, seen, seen', behind⟩
  · rw [ended, ended']
    exact .ok left related
  · have below := below fewer less
    rw [seen, seen']
    dsimp only
    split
    · exact .ok left related
    · split
      · split
        · exact ((below.expression _ behind).andThen fun _ => below.climb level _).widen less
        · exact ((below.arguments behind).andThen fun _ => below.climb level _).widen less
      · exact .ok left related

theorem expression_alike (level : Level) (first : ReadAlike R (leading (σ := σ)) (leading (σ := τ)))
    (climbs : ∀ left, ReadAlike R (climb level left) (climb level left)) :
    ReadAlike R (expression level) (expression level) := by
  intro one other related
  rw [expression_eq, expression_eq]
  exact (first related).andThen climbs

theorem argumentList_alike (matching : Matching R)
    (below : ∀ left < bound, AllAlike (AtMost R left))
    (here : ∀ level, ReadAlike (AtMost R bound) (expression level) (expression level)) :
    ReadAlike (AtMost R bound) argumentList argumentList := by
  intro one other related
  rw [argumentList_eq, argumentList_eq]
  apply (here .lowest related).andThen
  intro argument
  apply ifTaken_alike matching (by decide)
  · exact fun left less _ _ behind => ((below left less).argumentList behind).map _
  · exact fun _ _ behind => (expect_alike matching .rparen behind).map _

theorem arguments_alike (matching : Matching R)
    (list : ReadAlike (AtMost R bound) argumentList argumentList) :
    ReadAlike (AtMost R bound) arguments arguments := by
  intro one other related
  rw [arguments_eq, arguments_eq]
  refine ifTaken_alike matching (by decide) ?_ list related
  exact fun left less _ _ behind => .ok [] behind

theorem blockRest_alike (matching : Matching R)
    (below : ∀ left < bound, AllAlike (AtMost R left)) :
    ReadAlike (AtMost R bound) blockRest blockRest := by
  intro one other related
  rw [blockRest_eq, blockRest_eq other]
  rcases related.peek matching with ⟨ended, ended'⟩ | ⟨token, fewer, less, seen, seen', behind⟩
  · rw [ended, ended']
    exact .fail _ related
  have below := below fewer less
  rw [seen, seen']
  dsimp only
  split
  · exact .ok [] (behind.mono (Nat.le_of_lt less))
  -- a statement takes its first token, so the rest of the block has fewer tokens to read
  have first := below.statementFrom token behind
  generalize statementFrom token (advance one) = step at first
  generalize statementFrom token (advance other) = step' at first
  obtain ⟨result, recorded, left⟩ := step
  obtain ⟨_, _, left'⟩ := step'
  obtain ⟨rfl, rfl, first⟩ := first
  cases result with
  | ok statement =>
    have others := below.blockRest (dropSemicolon_alike matching first)
    exact ((others.map _).after _).widen less
  | error error =>
    dsimp only
    have here := first.mono (Nat.le_of_lt less)
    rcases resumeInBlock_alike matching error first with
      ⟨one, other⟩ | ⟨one, other⟩ | ⟨rest, rest', one, other, related⟩
    · rw [one, other]
      exact ⟨rfl, rfl, here⟩
    · rw [one, other]
      exact ⟨rfl, rfl, here⟩
    · rw [one, other]
      exact ((below.blockRest related).after _).widen less

theorem block_alike (matching : Matching R)
    (inside : ReadAlike (AtMost R bound) blockRest blockRest) :
    ReadAlike (AtMost R bound) block block := by
  intro one other related
  rw [block_eq, block_eq]
  exact (expect_alike matching .lbrace related).andThen fun _ => inside

theorem operand_alike (matching : Matching R) (token : Token)
    (below : ∀ left < bound, AllAlike (AtMost R left))
    (here : ∀ level, ReadAlike (AtMost R bound) (expression level) (expression level))
    (braced : ReadAlike (AtMost R bound) block block) :
    ReadAlike (AtMost R bound) (operand token) (operand token) := by
  intro one other related
  rw [operand_eq, operand_eq]
  have closing {value : Expr} : ReadAlike (AtMost R bound)
      (fun rest => (expect .rparen rest).map fun _ => value)
      (fun rest => (expect .rparen rest).map fun _ => value) :=
    fun _ _ behind => (expect_alike matching .rparen behind).map _
  cases token.kind with
  | int digits =>
    dsimp only
    split
    · exact .ok _ related
    · exact .fail _ related
  | ident | string | trueKeyword | falseKeyword => exact .ok _ related
  | bang | minus => exact (here .unary related).map _
  | lparen => exact (here .lowest related).andThen fun _ => closing
  | ifKeyword =>
    refine (expect_alike matching .lparen related).andThen fun _ _ _ behind => ?_
    refine (here .lowest behind).andThen fun _ _ _ behind => ?_
    refine (expect_alike matching .rparen behind).andThen fun _ _ _ behind => ?_
    refine (braced behind).andThen fun _ => ifTaken_alike matching (by decide) ?_ ?_
    · exact fun left less _ _ behind => ((below left less).block behind).map _
    · exact fun _ _ behind => .ok _ behind
  | fnKeyword =>
    refine (expect_alike matching .lparen related).andThen fun _ _ _ behind => ?_
    refine (parameters_alike matching behind).andThen fun _ _ _ behind => ?_
    exact (braced behind).map _
  | _ => exact .fail _ related

theorem statementFrom_alike (matching : Matching R) (token : Token)
    (here : ∀ level, ReadAlike (AtMost R bound) (expression level) (expression level))
    (first : ReadAlike (AtMost R bound) (operand token) (operand token))
    (climbs : ∀ left, ReadAlike (AtMost R bound) (climb .lowest left) (climb .lowest left)) :
    ReadAlike (AtMost R bound) (statementFrom token) (statementFrom token) := by
  intro one other related
  rw [statementFrom_eq, statementFrom_eq]
  cases token.kind with
  | letKeyword =>
    refine (identifier_alike matching related).andThen fun _ _ _ behind => ?_
    refine (expect_alike matching .assign behind).andThen fun _ _ _ behind => ?_
    exact (here .lowest behind).map _
  | returnKeyword => exact (here .lowest related).map _
  | _ => exact ((first related).andThen climbs).map _

theorem allAlike_atMost (matching : Matching R) (bound : Nat) : AllAlike (AtMost R bound) := by
  induction bound using Nat.strongRecOn with
  | ind bound below =>
    have climb := climb_alike matching below
    have expression (level : Level) :
        ReadAlike (AtMost R bound) (expression level) (expression level) :=
      expression_alike level (leading_alike matching below) (climb level)
    have list := argumentList_alike matching below expression
    have inside := blockRest_alike matching below
    have block := block_alike matching inside
    have operand (token : Token) := operand_alike matching token below expression block
    exact {
      operand, climb, expression, block
      argumentList := list
      arguments := arguments_alike matching list
      blockRest := inside
      statementFrom := fun token =>
        statementFrom_alike matching token expression (operand token) (climb .lowest) }

end Parse

namespace Matching
open Parse

theorem operand (matching : Matching R) (token : Token) :
    ReadAlike R (Parse.operand token) (Parse.operand token) :=
  .of_atMost fun bound => (allAlike_atMost matching bound).operand token

theorem climb (matching : Matching R) (level : Level) (left : Expr) :
    ReadAlike R (Parse.climb level left) (Parse.climb level left) :=
  .of_atMost fun bound => (allAlike_atMost matching bound).climb level left

theorem expression (matching : Matching R) (level : Level) :
    ReadAlike R (Parse.expression level) (Parse.expression level) :=
  .of_atMost fun bound => (allAlike_atMost matching bound).expression level

theorem block (matching : Matching R) : ReadAlike R Parse.block Parse.block :=
  .of_atMost fun bound => (allAlike_atMost matching bound).block

theorem statement_behind (matching : Matching R) {bound : Nat}
    (related : AtMost R bound one other) :
    peek? one = none ∧ peek? other = none ∨
      ∃ left < bound, peek? one ≠ none ∧ peek? other ≠ none ∧
        (Parse.statement one).Alike (AtMost R left) (Parse.statement other) := by
  rcases related.peek matching with ended | ⟨token, left, less, seen, seen', behind⟩
  · exact .inl ended
  · have first := (allAlike_atMost matching left).statementFrom token behind
    rw [Parse.statement, Parse.statement, seen, seen']
    exact .inr ⟨left, less, Option.some_ne_none _, Option.some_ne_none _, first⟩

theorem statement (matching : Matching R) : ReadAlike R Parse.statement Parse.statement := by
  apply ReadAlike.of_atMost
  intro bound one other related
  rcases matching.statement_behind related with ⟨ended, ended'⟩ | ⟨left, less, -, -, first⟩
  · unfold Parse.statement
    rw [ended, ended']
    exact .fail _ related
  · exact first.widen less

theorem statements_atMost (matching : Matching R) {bound : Nat}
    (related : AtMost R bound one other) :
    (statements one).program = (statements other).program ∧
      (statements one).errors = (statements other).errors ∧
      R (statements one).rest (statements other).rest := by
  induction bound using Nat.strongRecOn generalizing one other with
  | ind bound ih =>
    rcases matching.statement_behind related with
      ⟨ended, ended'⟩ | ⟨fewer, less, going, going', first⟩
    · rw [statements_of_ended ended, statements_of_ended ended']
      exact ⟨rfl, rfl, related.1⟩
    generalize step : Parse.statement one = here at first
    generalize step' : Parse.statement other = there at first
    obtain ⟨result, recorded, left⟩ := here
    obtain ⟨_, _, left'⟩ := there
    obtain ⟨rfl, rfl, behind⟩ := first
    cases result with
    | ok value =>
      obtain ⟨program, errors, rest⟩ := ih fewer less (dropSemicolon_alike matching behind)
      rw [statements_of_ok going step, statements_of_ok going' step']
      exact ⟨congrArg (value :: ·) program, congrArg (recorded ++ ·) errors, rest⟩
    | error error =>
      obtain ⟨program, errors, rest⟩ := ih fewer less (resumeAtTop_alike matching error behind)
      rw [statements_of_error going step, statements_of_error going' step']
      exact ⟨program, congrArg (recorded ++ error :: ·) errors, rest⟩

/-- Reading related supplies to the end gives the same and leaves what is related. -/
theorem statements (matching : Matching R) (related : R one other) :
    (Parse.statements one).program = (Parse.statements other).program ∧
      (Parse.statements one).errors = (Parse.statements other).errors ∧
      R (Parse.statements one).rest (Parse.statements other).rest :=
  matching.statements_atMost ⟨related, Nat.le_refl (size one)⟩

end Matching

end Monkey
