import Monkey.Parse.Error
import Monkey.Parse.Supply

/-!
Reading tokens. A step takes tokens from a supply. It ends in a value or in an error, and mistakes
that it recovered from on the way are recorded in the order they were met.
-/
namespace Monkey
open Supply

structure Step (σ α : Type) where
  result : Except ParseError α
  recorded : List ParseError
  rest : σ

namespace Step

variable {σ α β : Type}

def ok (value : α) (rest : σ) : Step σ α := ⟨.ok value, [], rest⟩

def fail (error : ParseError) (rest : σ) : Step σ α := ⟨.error error, [], rest⟩

def after (recorded : List ParseError) (step : Step σ α) : Step σ α :=
  { step with recorded := recorded ++ step.recorded }

def andThen (step : Step σ α) (next : α → σ → Step σ β) : Step σ β :=
  match step.result with
  | .ok value => (next value step.rest).after step.recorded
  | .error error => ⟨.error error, step.recorded, step.rest⟩

def map (f : α → β) (step : Step σ α) : Step σ β :=
  { step with result := step.result.map f }

theorem andThen_ok (value : α) (rest : σ) (next : α → σ → Step σ β) :
    (ok value rest).andThen next = next value rest := rfl

theorem andThen_fail (error : ParseError) (rest : σ) (next : α → σ → Step σ β) :
    (fail error rest).andThen next = fail error rest := rfl

theorem map_id (step : Step σ α) : step.map id = step := by
  obtain ⟨result, recorded, rest⟩ := step
  cases result <;> rfl

theorem map_eq_andThen (f : α → β) (step : Step σ α) :
    step.map f = step.andThen fun value rest => ok (f value) rest := by
  obtain ⟨result, recorded, rest⟩ := step
  cases result with
  | ok value => simp [map, andThen, after, ok, Except.map]
  | error error => rfl

theorem andThen_assoc {γ : Type} (step : Step σ α) (next : α → σ → Step σ β)
    (last : β → σ → Step σ γ) :
    (step.andThen next).andThen last =
      step.andThen fun value rest => (next value rest).andThen last := by
  obtain ⟨result, recorded, rest⟩ := step
  cases result with
  | error error => rfl
  | ok value =>
    simp only [andThen, after]
    cases (next value rest).result with
    | error error => rfl
    | ok follow => simp only [List.append_assoc]

end Step

namespace Parse

variable {σ : Type} [Supply σ]

/-- Takes a token that must be of the given kind. A wrong one is used up as well. -/
def expect (kind : Token.Kind) (tokens : σ) : Step σ Unit :=
  match next? tokens with
  | none => .fail (.prematureEnd (.token kind)) tokens
  | some (token, rest) =>
    if token.kind = kind then .ok () rest
    else .fail (.unexpectedToken (.token kind) token) rest

def dropSemicolon (tokens : σ) : σ := (take? .semicolon tokens).getD tokens

def identifier (tokens : σ) : Step σ String :=
  match next? tokens with
  | none => .fail (.prematureEnd .identifier) tokens
  | some (token, rest) =>
    match token.kind with
    | .ident name => .ok name rest
    | _ => .fail (.unexpectedToken .identifier token) rest

theorem size_dropSemicolon_le (tokens : σ) : size (dropSemicolon tokens) ≤ size tokens := by
  unfold dropSemicolon
  cases taken : take? .semicolon tokens with
  | none => exact Nat.le_refl _
  | some rest => exact Nat.le_of_lt (size_take? taken)

theorem size_expect_rest_le (kind : Token.Kind) (tokens : σ) :
    size (expect kind tokens).rest ≤ size tokens := by
  unfold expect
  cases taken : next? tokens with
  | none => exact Nat.le_refl _
  | some step =>
    have shorter := Nat.le_of_lt (size_next? taken)
    dsimp only
    split
    · exact shorter
    · exact shorter

theorem size_identifier_rest_le (tokens : σ) :
    size (identifier tokens).rest ≤ size tokens := by
  unfold identifier
  cases taken : next? tokens with
  | none => exact Nat.le_refl _
  | some step =>
    have shorter := Nat.le_of_lt (size_next? taken)
    dsimp only
    split
    · exact shorter
    · exact shorter

end Parse

/-- A step that leaves at most what the given supply holds. Readers that call one another return such
steps, and that is why they come to an end. -/
def Within {σ : Type} [Supply σ] (tokens : σ) (α : Type) :=
  { step : Step σ α // size step.rest ≤ size tokens }

namespace Within

variable {σ α β : Type} [Supply σ] {tokens : σ}

def ok (value : α) : Within tokens α := ⟨.ok value tokens, Nat.le_refl _⟩

def fail (error : ParseError) : Within tokens α := ⟨.fail error tokens, Nat.le_refl _⟩

def reach (step : Step σ α) (le : size step.rest ≤ size tokens) : Within tokens α := ⟨step, le⟩

def andThen (step : Within tokens α)
    (next : α → (rest : σ) → size rest ≤ size tokens → Within rest β) :
    Within tokens β :=
  match step.val.result with
  | .ok value =>
    let follow := next value step.val.rest step.property
    ⟨follow.val.after step.val.recorded, Nat.le_trans follow.property step.property⟩
  | .error error => ⟨⟨.error error, step.val.recorded, step.val.rest⟩, step.property⟩

def expect (kind : Token.Kind) (tokens : σ) : Within tokens Unit :=
  ⟨Parse.expect kind tokens, Parse.size_expect_rest_le kind tokens⟩

def identifier (tokens : σ) : Within tokens String :=
  ⟨Parse.identifier tokens, Parse.size_identifier_rest_le tokens⟩

def map (f : α → β) (step : Within tokens α) : Within tokens β := ⟨step.val.map f, step.property⟩

def after (recorded : List ParseError) (step : Within tokens α) : Within tokens α :=
  ⟨step.val.after recorded, step.property⟩

def widen {rest : σ} (step : Within rest α) (le : size rest ≤ size tokens) :
    Within tokens α :=
  ⟨step.val, Nat.le_trans step.property le⟩

theorem val_andThen {step : Within tokens α}
    {next : α → (rest : σ) → size rest ≤ size tokens → Within rest β}
    {plain : α → σ → Step σ β}
    (same : ∀ value rest le, (next value rest le).val = plain value rest) :
    (step.andThen next).val = step.val.andThen plain := by
  unfold andThen Step.andThen
  split
  · simp only [same]
  · rfl

end Within

end Monkey
