import Mathlib.Data.List.TakeWhile
import Monkey.Proofs.Parse.Matching
import Monkey.Proofs.Parse.TokenList

/-!
The tokens that can be read. A source hands out elements beyond the first end marker, but a reader
that runs on it gives what it gives on the list of the tokens in front of the marker, and leaves the
marker and all that is behind it where they are.
-/
namespace Monkey
open Supply

namespace TokenSource

variable {source rest : TokenSource} {token : Token}

theorem tokens_of_ended (ended : source.pull? = none) : source.tokens = [] := by
  cases source with
  | list tokens =>
    cases tokens with
    | nil => rfl
    | cons first others => contradiction
  | tokenizer t =>
    have ended : t.next? = none := Option.map_eq_none_iff.1 ended
    rw [tokens, Tokenizer.drain_of_next?_none ended]

theorem tokens_of_pull? (pulled : source.pull? = some (token, rest)) :
    source.tokens = token :: rest.tokens := by
  cases source with
  | list tokens =>
    cases tokens with
    | nil => contradiction
    | cons first others =>
      cases pulled
      rfl
  | tokenizer t =>
    obtain ⟨⟨_, after⟩, step, same⟩ := Option.map_eq_some_iff.1 pulled
    cases same
    rw [tokens, Tokenizer.drain_of_next?_some step]
    rfl

theorem pull?_of_tokens_cons {others : List Token} (whole : source.tokens = token :: others) :
    ∃ rest, source.pull? = some (token, rest) ∧ rest.tokens = others := by
  cases pulled : source.pull? with
  | none =>
    rw [tokens_of_ended pulled] at whole
    contradiction
  | some step =>
    rw [tokens_of_pull? pulled] at whole
    obtain ⟨rfl, same⟩ := List.cons.inj whole
    exact ⟨step.2, rfl, same⟩

end TokenSource

namespace Parser

def readable (parser : Parser) : List Token := parser.tokens.takeWhile (·.kind ≠ .eof)

def unread (parser : Parser) : List Token := parser.tokens.dropWhile (·.kind ≠ .eof)

end Parser

namespace Parse

variable {α : Type} {beyond front : List Token} {source : TokenSource}

abbrev EofFree (tokens : List Token) : Prop := ∀ token ∈ tokens, token.kind ≠ .eof

theorem readable_append (free : EofFree front) (more : List Token) :
    (Parser.ofTokens (front ++ more)).readable = front ++ (Parser.ofTokens more).readable := by
  have all : ∀ token ∈ front, decide (token.kind ≠ .eof) = true := by simpa using free
  exact List.takeWhile_append_of_pos all

theorem readable_of_eofFree {tokens : List Token} (free : EofFree tokens) :
    (Parser.ofTokens tokens).readable = tokens := by
  rw [← List.append_nil tokens, readable_append free]
  rfl

theorem readable_append_unread (parser : Parser) :
    parser.readable ++ parser.unread = parser.tokens :=
  List.takeWhile_append_dropWhile

theorem eofFree_readable (parser : Parser) : EofFree parser.readable := by
  intro token member
  simpa using List.mem_takeWhile_imp member

theorem unread_append (free : EofFree front) (more : List Token) :
    (Parser.ofTokens (front ++ more)).unread = (Parser.ofTokens more).unread := by
  have all : ∀ token ∈ front, decide (token.kind ≠ .eof) = true := by simpa using free
  exact List.dropWhile_append_of_pos all

theorem readable_unread (tokens : List Token) :
    (Parser.ofTokens (Parser.ofTokens tokens).unread).readable = [] := by
  have whole : (Parser.ofTokens tokens).readable ++
      (Parser.ofTokens (Parser.ofTokens tokens).unread).readable =
        (Parser.ofTokens tokens).readable := by
    rw [← readable_append (eofFree_readable _), readable_append_unread]
    rfl
  exact List.append_right_eq_self.1 whole

/-- The source has the tokens `front` to be read and, behind them, what begins with an end marker or
is nothing at all. -/
structure InFront (beyond : List Token) (source : TokenSource) (front : List Token) : Prop where
  tokens : source.tokens = front ++ beyond
  free : EofFree front
  marked : (Parser.ofTokens beyond).readable = []

theorem inFront_readable (parser : Parser) :
    InFront parser.unread parser.source parser.readable where
  tokens := (readable_append_unread parser).symm
  free := eofFree_readable parser
  marked := readable_unread parser.tokens

namespace InFront

theorem readable_eq (inFront : InFront beyond source front) (pending : List ParseError) :
    (Parser.mk source pending).readable = front := by
  show (Parser.ofTokens source.tokens).readable = front
  rw [inFront.tokens, readable_append inFront.free, inFront.marked, List.append_nil]

/-- An element that is handed out when no token is left to be read is the end marker. -/
theorem kind_of_pull? {rest : TokenSource} {token : Token} (inFront : InFront beyond source [])
    (pulled : source.pull? = some (token, rest)) : token.kind = .eof := by
  have whole : token :: rest.tokens = beyond :=
    (TokenSource.tokens_of_pull? pulled).symm.trans inFront.tokens
  have marked := inFront.marked
  by_contra proper
  rw [← whole, ← List.singleton_append, readable_append (by simpa [EofFree] using proper)] at marked
  contradiction

theorem pull? {token : Token} (inFront : InFront beyond source (token :: front)) :
    token.kind ≠ .eof ∧
      ∃ rest, source.pull? = some (token, rest) ∧ InFront beyond rest front := by
  obtain ⟨rest, pulled, whole⟩ := TokenSource.pull?_of_tokens_cons inFront.tokens
  obtain ⟨proper, free⟩ := List.forall_mem_cons.1 inFront.free
  exact ⟨proper, rest, pulled, whole, free, inFront.marked⟩

end InFront

/-- A source answers as the list of its readable tokens does. -/
theorem matching_inFront (beyond : List Token) : Matching (InFront beyond) where
  next {source front} inFront := by
    cases front with
    | nil =>
      have ended : source.next? = none := by
        rw [TokenSource.next?, Option.filter_eq_none_iff]
        rintro ⟨token, rest⟩ pulled
        simp [inFront.kind_of_pull? pulled]
      exact .inl ⟨ended, rfl⟩
    | cons token front =>
      obtain ⟨proper, rest, pulled, inFront⟩ := inFront.pull?
      have next : source.next? = some (token, rest) := by
        rw [TokenSource.next?, pulled]
        simp [proper]
      exact .inr ⟨token, rest, front, next, rfl, inFront⟩
  take {kind source front} proper inFront := by
    cases front with
    | nil =>
      have absent : source.take? kind = none := by
        rw [TokenSource.take?, Option.map_eq_none_iff, Option.filter_eq_none_iff]
        rintro ⟨token, rest⟩ pulled
        simp [inFront.kind_of_pull? pulled, proper.symm]
      exact .inl ⟨absent, rfl⟩
    | cons token front =>
      obtain ⟨-, rest, pulled, inFront⟩ := inFront.pull?
      by_cases same : token.kind = kind
      · have taken : source.take? kind = some rest := by
          rw [TokenSource.take?, pulled]
          simp [same]
        exact .inr ⟨rest, front, taken, if_pos same, inFront⟩
      · have absent : source.take? kind = none := by
          rw [TokenSource.take?, pulled]
          simp [same]
        exact .inl ⟨absent, if_neg same⟩

theorem run_alike {read : TokenSource → Step TokenSource α}
    {plain : List Token → Step (List Token) α}
    (alike : ∀ beyond, ReadAlike (InFront beyond) read plain) (parser : Parser) :
    (parser.run read).1 = (plain parser.readable).result ∧
      InFront parser.unread (parser.run read).2.source (plain parser.readable).rest ∧
      (parser.run read).2.pending = parser.pending ++ (plain parser.readable).recorded := by
  obtain ⟨result, recorded, rest⟩ := alike _ (inFront_readable parser)
  exact ⟨result, rest, congrArg (parser.pending ++ ·) recorded⟩

theorem statements_alike (parser : Parser) :
    (statements parser.source).program = (statements parser.readable).program ∧
      (statements parser.source).errors = (statements parser.readable).errors ∧
      InFront parser.unread (statements parser.source).rest [] := by
  have alike := (matching_inFront parser.unread).statements (inFront_readable parser)
  rwa [statements_rest] at alike

theorem program_congr {one other : Parser} (same : one.readable = other.readable)
    (pending : one.pending = other.pending) : one.program.1 = other.program.1 := by
  obtain ⟨program, errors, -⟩ := statements_alike one
  obtain ⟨program', errors', -⟩ := statements_alike other
  rw [Parser.program, Parser.program, program, errors, program', errors', same, pending]
  cases other.pending ++ (statements other.readable).errors <;> rfl

end Parse

theorem parse_eq (source : String) : parse source = (Parser.ofTokens (lex source)).program.1 :=
  Parse.program_congr rfl rfl

end Monkey
