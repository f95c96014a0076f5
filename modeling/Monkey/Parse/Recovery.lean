import Monkey.Parse.Step

/-!
Going on after a mistake. Reading resumes behind the next semicolon that is not nested in braces
opened meanwhile, or at the end of the block that the faulty statement stands in.
-/
namespace Monkey.Parse
open Supply

/-- Where statements are read: in a block, whose closing brace must not be passed over, or at the
top of a program, where a closing brace means nothing. -/
inductive Place
  | block
  | top
  deriving DecidableEq, Repr

variable {σ : Type} [Supply σ]

/-- What is left once the faulty statement is passed over, `depth` being the number of braces that
are open inside it. -/
def skip (place : Place) (depth : Nat) (tokens : σ) : σ :=
  match _seen : peek? tokens with
  | none => tokens
  | some token =>
    match token.kind with
    | .lbrace => skip place (depth + 1) (advance tokens)
    | .rbrace =>
      match depth, place with
      | 0, .block => tokens
      | 0, .top => skip place 0 (advance tokens)
      | inner + 1, _ => skip place inner (advance tokens)
    | .semicolon => if depth = 0 then advance tokens else skip place depth (advance tokens)
    | _ => skip place depth (advance tokens)
termination_by size tokens
decreasing_by all_goals exact size_advance_lt _seen

theorem skip_eq (place : Place) (depth : Nat) (tokens : σ) :
    skip place depth tokens = match peek? tokens with
      | none => tokens
      | some token =>
        match token.kind with
        | .lbrace => skip place (depth + 1) (advance tokens)
        | .rbrace =>
          match depth, place with
          | 0, .block => tokens
          | 0, .top => skip place 0 (advance tokens)
          | inner + 1, _ => skip place inner (advance tokens)
        | .semicolon => if depth = 0 then advance tokens else skip place depth (advance tokens)
        | _ => skip place depth (advance tokens) := by
  rw [skip.eq_def]
  split
  · next ended => rw [ended]
  · next seen => rw [seen]

/-- How the statements of a block go on after an error. The token at fault is already used up. -/
inductive Resumption (σ : Type)
  /-- The input is at its end. -/
  | abandoned
  | closed
  | continues (rest : σ)

def resumeInBlock (error : ParseError) (rest : σ) : Resumption σ :=
  match error.token?.map Token.kind with
  | none => .abandoned
  | some .rbrace => .closed
  | some .semicolon => .continues rest
  | some .lbrace => .continues (skip .block 1 rest)
  | some _ => .continues (skip .block 0 rest)

def resumeAtTop (error : ParseError) (rest : σ) : σ :=
  match error.token?.map Token.kind with
  | some .semicolon => rest
  | some .lbrace => skip .top 1 rest
  | _ => skip .top 0 rest

theorem size_skip_le (place : Place) (depth : Nat) (tokens : σ) :
    size (skip place depth tokens) ≤ size tokens := by
  induction smaller : size tokens using Nat.strongRecOn generalizing depth tokens with
  | ind n ih =>
    subst smaller
    rw [skip_eq]
    split
    · exact Nat.le_refl _
    · next token seen =>
      have shorter := size_advance_lt seen
      have others := fun depth => Nat.le_trans (ih _ shorter depth _ rfl) (Nat.le_of_lt shorter)
      repeat' split
      all_goals first
        | exact others _
        | exact Nat.le_of_lt shorter
        | exact Nat.le_refl _

theorem size_resumeInBlock_le {error : ParseError} {tokens rest : σ}
    (resumed : resumeInBlock error tokens = .continues rest) : size rest ≤ size tokens := by
  unfold resumeInBlock at resumed
  split at resumed <;> cases resumed
  · exact Nat.le_refl _
  · exact size_skip_le ..
  · exact size_skip_le ..

theorem size_resumeAtTop_le (error : ParseError) (tokens : σ) :
    size (resumeAtTop error tokens) ≤ size tokens := by
  unfold resumeAtTop
  split
  · exact Nat.le_refl _
  · exact size_skip_le ..
  · exact size_skip_le ..

end Monkey.Parse
