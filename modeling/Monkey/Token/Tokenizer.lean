import Monkey.Text.Blank
import Monkey.Token.Lexeme

/-!
Cutting a text into tokens. A tokenizer hands out one token after the other and, once the text is
used up, the end marker for ever. Read as a sequence it gives that marker once and then nothing.
-/
namespace Monkey

namespace Text

def width : List Char → Nat
  | [] => 0
  | c :: cs => c.utf8Size + width cs

theorem width_append (cs ds : List Char) : width (cs ++ ds) = width cs + width ds := by
  induction cs with
  | nil => simp [width]
  | cons c cs ih => simp [width, ih, Nat.add_assoc]

end Text

structure Tokenizer where
  rest : List Char
  position : Nat
  /-- Whether the end marker has been given as an element of the sequence. -/
  finished : Bool
  deriving DecidableEq, Repr

namespace Tokenizer

def ofSource (source : String) : Tokenizer := ⟨source.toList, 0, false⟩

def nextToken (t : Tokenizer) : Token × Tokenizer :=
  let start := t.position + Text.width (t.rest.takeWhile Text.isBlank)
  match t.rest.dropWhile Text.isBlank with
  | [] => (⟨.eof, start, start⟩, { t with rest := [], position := start })
  | c :: cs =>
    let lexeme := Token.Lexeme.scan c cs
    let stop := start + Text.width lexeme.text
    (⟨lexeme.kind, start, stop⟩, { t with rest := lexeme.rest, position := stop })

def next? (t : Tokenizer) : Option (Token × Tokenizer) :=
  if t.finished then none
  else
    let step := t.nextToken
    some (step.1, { step.2 with finished := step.1.kind = .eof })

theorem nextToken_rest_length (t : Tokenizer) :
    t.nextToken.2.rest.length + (if t.nextToken.1.kind = .eof then 0 else 1) ≤ t.rest.length := by
  have dropped := (List.dropWhile_suffix (p := Text.isBlank) (l := t.rest)).length_le
  unfold nextToken
  split
  · simp
  · next c cs heads =>
    have shorter := Token.Lexeme.scan_rest_length_le c cs
    rw [heads, List.length_cons] at dropped
    simp only
    split <;> omega

/-- Bounds the number of elements still to come. -/
def remaining (t : Tokenizer) : Nat := t.rest.length + if t.finished then 0 else 1

theorem remaining_next_lt {t after : Tokenizer} {token : Token}
    (step : t.next? = some (token, after)) : after.remaining < t.remaining := by
  have used := t.nextToken_rest_length
  unfold next? at step
  split at step
  · contradiction
  · next unfinished =>
    simp only [Option.some.injEq, Prod.mk.injEq] at step
    obtain ⟨rfl, rfl⟩ := step
    simp only [remaining, unfinished, decide_eq_true_eq, Bool.false_eq_true, if_false]
    split at used
    · next ended => rw [if_pos ended]; omega
    · next going => rw [if_neg going]; omega

/-- All elements still to come, and the tokenizer that has given them. -/
def drain (t : Tokenizer) : List Token × Tokenizer :=
  match _step : t.next? with
  | none => ([], t)
  | some (token, after) =>
    let (tokens, last) := after.drain
    (token :: tokens, last)
termination_by t.remaining
decreasing_by exact remaining_next_lt _step

theorem drain_of_next?_none {t : Tokenizer} (ended : t.next? = none) : t.drain = ([], t) := by
  rw [drain]
  split
  · rfl
  · next token after step => rw [ended] at step; contradiction

theorem drain_of_next?_some {t after : Tokenizer} {token : Token}
    (step : t.next? = some (token, after)) :
    t.drain = (token :: after.drain.1, after.drain.2) := by
  rw [drain]
  split
  · next ended => rw [ended] at step; contradiction
  · next token' after' step' =>
    rw [step] at step'
    cases step'
    rfl

end Tokenizer

/-- The tokens of a text, the end marker last. -/
def lex (source : String) : List Token := (Tokenizer.ofSource source).drain.1

end Monkey
