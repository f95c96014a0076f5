import Monkey.Parse.Reader
import Monkey.Parse.Source
import Monkey.Program.Equality

/-!
Parsers. A parser holds the source of the tokens ahead of it and the mistakes that were recovered
from and not yet reported.
-/
namespace Monkey
open Supply

structure Reading (σ : Type) where
  program : Program
  errors : List ParseError
  rest : σ
  deriving DecidableEq

namespace Reading

variable {σ : Type}

def addStatement (statement : Stmt) (recorded : List ParseError) (reading : Reading σ) :
    Reading σ :=
  ⟨statement :: reading.program, recorded ++ reading.errors, reading.rest⟩

def addError (error : ParseError) (recorded : List ParseError) (reading : Reading σ) : Reading σ :=
  ⟨reading.program, recorded ++ error :: reading.errors, reading.rest⟩

end Reading

namespace Parse

variable {σ : Type} [Supply σ]

theorem size_statement_rest_lt {tokens : σ} {token : Token} (seen : peek? tokens = some token) :
    size (statement tokens).rest < size tokens := by
  rw [statement, seen]
  exact Nat.lt_of_le_of_lt (size_statementFrom_rest_le ..) (size_advance_lt seen)

/-- Reads statements to the end, going on after each mistake. -/
def statements (tokens : σ) : Reading σ :=
  match _seen : peek? tokens with
  | none => ⟨[], [], tokens⟩
  | some _ =>
    match _found : statement tokens with
    | ⟨.ok value, recorded, left⟩ =>
      (statements (dropSemicolon left)).addStatement value recorded
    | ⟨.error error, recorded, left⟩ =>
      (statements (resumeAtTop error left)).addError error recorded
termination_by size tokens
decreasing_by
  all_goals
    have bound := size_statement_rest_lt _seen
    rw [_found] at bound
  · exact Nat.lt_of_le_of_lt (size_dropSemicolon_le left) bound
  · exact Nat.lt_of_le_of_lt (size_resumeAtTop_le error left) bound

variable {tokens left : σ} {recorded : List ParseError}

theorem statements_of_ended (ended : peek? tokens = none) :
    statements tokens = ⟨[], [], tokens⟩ := by
  rw [statements]
  split
  · rfl
  · next seen => rw [ended] at seen; contradiction

theorem statements_of_ok {value : Stmt} (going : peek? tokens ≠ none)
    (step : statement tokens = ⟨.ok value, recorded, left⟩) :
    statements tokens = (statements (dropSemicolon left)).addStatement value recorded := by
  rw [statements]
  split
  · next ended => exact absurd ended going
  · split
    · next found => rw [step] at found; cases found; rfl
    · next found => rw [step] at found; cases found

theorem statements_of_error {error : ParseError} (going : peek? tokens ≠ none)
    (step : statement tokens = ⟨.error error, recorded, left⟩) :
    statements tokens = (statements (resumeAtTop error left)).addError error recorded := by
  rw [statements]
  split
  · next ended => exact absurd ended going
  · split
    · next found => rw [step] at found; cases found
    · next found => rw [step] at found; cases found; rfl

theorem peek?_statements_rest (tokens : σ) : peek? (statements tokens).rest = none := by
  induction smaller : size tokens using Nat.strongRecOn generalizing tokens with
  | ind n ih =>
    subst smaller
    cases seen : peek? tokens with
    | none =>
      rw [statements_of_ended seen]
      exact seen
    | some token =>
      have going : peek? tokens ≠ none := by rw [seen]; exact Option.some_ne_none token
      have shorter := size_statement_rest_lt seen
      cases step : statement tokens with
      | mk result recorded left =>
        rw [step] at shorter
        cases result with
        | ok value =>
          rw [statements_of_ok going step]
          exact ih _ (Nat.lt_of_le_of_lt (size_dropSemicolon_le left) shorter) _ rfl
        | error error =>
          rw [statements_of_error going step]
          exact ih _ (Nat.lt_of_le_of_lt (size_resumeAtTop_le error left) shorter) _ rfl

end Parse

structure Parser where
  source : TokenSource
  pending : List ParseError
  deriving DecidableEq

namespace Parser

def ofTokens (tokens : List Token) : Parser := ⟨.list tokens, []⟩

def ofTokenizer (tokenizer : Tokenizer) : Parser := ⟨.tokenizer tokenizer, []⟩

def tokens (parser : Parser) : List Token := parser.source.tokens

def run {α : Type} (parser : Parser) (read : TokenSource → Step TokenSource α) :
    Except ParseError α × Parser :=
  let step := read parser.source
  (step.result, ⟨step.rest, parser.pending ++ step.recorded⟩)

def statement (parser : Parser) : Except ParseError Stmt × Parser := parser.run Parse.statement

def expression (parser : Parser) (level : Level) : Except ParseError Expr × Parser :=
  parser.run (Parse.expression level)

def operand (parser : Parser) (token : Token) : Except ParseError Expr × Parser :=
  parser.run (Parse.operand token)

/-- Reads all that is left. The errors are those still pending and those met now, and none is
pending afterwards. -/
def program (parser : Parser) : Except (List ParseError) Program × Parser :=
  let reading := Parse.statements parser.source
  let after : Parser := ⟨reading.rest, []⟩
  match parser.pending ++ reading.errors with
  | [] => (.ok reading.program, after)
  | errors => (.error errors, after)

end Parser

def parse (source : String) : Except (List ParseError) Program :=
  (Parser.ofTokenizer (.ofSource source)).program.1

end Monkey
