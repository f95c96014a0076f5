import Monkey.Proofs.Parse.Lookahead
import Monkey.Proofs.Parse.Readable
import Monkey.Proofs.Token.Tiling

/-!
The end marker. A parser takes tokens in front of the first end marker only, however often and in
whatever order its readers are called, and so it answers as if the marker and all that is behind it
were not there.
-/
namespace Monkey

namespace Parse

variable {α : Type}

theorem Reads.suffix {pattern : Pattern} {read : List Token → Step (List Token) α}
    {tokens : List Token} (reads : Reads pattern read tokens) : (read tokens).rest <:+ tokens := by
  cases reads with
  | value used value uses same =>
    rw [same _ rfl]
    exact List.suffix_append _ _
  | fault front error carries uses same =>
    rw [same, List.append_cons]
    exact List.suffix_append _ _
  | ended carries uses step =>
    rw [step]
    exact List.nil_suffix

theorem operand_suffix (token : Token) (tokens : List Token) :
    (operand token tokens).rest <:+ tokens := by
  rcases operand_begins_or_refuses token with ⟨starts, digits⟩ | ⟨error, -, refused⟩
  · exact (operand_reads starts digits fun _ => allRead _).suffix
  · rw [refused]
    exact List.suffix_refl _

end Parse

namespace Parser
open Parse

inductive Request
  | program
  | statement
  | expression (level : Level)
  | operand (token : Token)

inductive Answer
  | program (result : Except (List ParseError) Program)
  | statement (result : Except ParseError Stmt)
  | expression (result : Except ParseError Expr)

def answer (parser : Parser) : Request → Answer × Parser
  | .program => (.program parser.program.1, parser.program.2)
  | .statement => (.statement parser.statement.1, parser.statement.2)
  | .expression level => (.expression (parser.expression level).1, (parser.expression level).2)
  | .operand token => (.expression (parser.operand token).1, (parser.operand token).2)

/-- What one parser answers to the requests, each made where the one before it left the parser, and
the parser in the end. -/
def answers (parser : Parser) : List Request → List Answer × Parser
  | [] => ([], parser)
  | request :: requests =>
    let (first, next) := parser.answer request
    let (others, last) := next.answers requests
    (first :: others, last)

/-- One parser holds what the other holds and some more behind it, from an end marker on. -/
structure Extends (beyond : List Token) (one other : Parser) : Prop where
  free : EofFree other.tokens
  marked : (ofTokens beyond).readable = []
  tokens : one.tokens = other.tokens ++ beyond
  pending : one.pending = other.pending

variable {α : Type} {beyond : List Token} {one other : Parser}

theorem extends_readable (parser : Parser) :
    Extends parser.unread ⟨parser.source, []⟩ (ofTokens parser.readable) where
  free := eofFree_readable parser
  marked := readable_unread parser.tokens
  tokens := (readable_append_unread parser).symm
  pending := rfl

namespace Extends

theorem inFront (both : Extends beyond one other) : InFront beyond one.source other.tokens :=
  ⟨both.tokens, both.free, both.marked⟩

theorem alone (both : Extends beyond one other) : InFront [] other.source other.tokens :=
  ⟨(List.append_nil _).symm, both.free, rfl⟩

theorem behind {left left' : TokenSource} {front : List Token} {pending pending' : List ParseError}
    (inFront : InFront beyond left front) (alone : InFront [] left' front)
    (same : pending = pending') : Extends beyond ⟨left, pending⟩ ⟨left', pending'⟩ where
  free := by
    show EofFree left'.tokens
    rw [alone.tokens, List.append_nil]
    exact inFront.free
  marked := inFront.marked
  tokens := by
    show left.tokens = left'.tokens ++ beyond
    rw [inFront.tokens, alone.tokens, List.append_nil]
  pending := same

theorem run (both : Extends beyond one other) {read : TokenSource → Step TokenSource α}
    {plain : List Token → Step (List Token) α}
    (alike : ∀ beyond, ReadAlike (InFront beyond) read plain) :
    (one.run read).1 = (other.run read).1 ∧ Extends beyond (one.run read).2 (other.run read).2 := by
  obtain ⟨result, recorded, rest⟩ := alike _ both.inFront
  obtain ⟨result', recorded', rest'⟩ := alike _ both.alone
  refine ⟨result.trans result'.symm, behind rest rest' ?_⟩
  rw [both.pending, recorded, recorded']

theorem program (both : Extends beyond one other) :
    one.program.1 = other.program.1 ∧ Extends beyond one.program.2 other.program.2 := by
  obtain ⟨program, errors, rest⟩ := (matching_inFront beyond).statements both.inFront
  obtain ⟨program', errors', rest'⟩ := (matching_inFront []).statements both.alone
  have after := behind rest rest' (Eq.refl [])
  simp only [Parser.program, both.pending, program, errors, program', errors']
  cases other.pending ++ (statements other.tokens).errors with
  | nil => exact ⟨rfl, after⟩
  | cons first others => exact ⟨rfl, after⟩

theorem answer (both : Extends beyond one other) (request : Request) :
    (one.answer request).1 = (other.answer request).1 ∧
      Extends beyond (one.answer request).2 (other.answer request).2 := by
  cases request with
  | program =>
    obtain ⟨same, after⟩ := both.program
    exact ⟨congrArg Answer.program same, after⟩
  | statement =>
    obtain ⟨same, after⟩ := both.run fun _ => (matching_inFront _).statement
    exact ⟨congrArg Answer.statement same, after⟩
  | expression level =>
    obtain ⟨same, after⟩ := both.run fun _ => (matching_inFront _).expression level
    exact ⟨congrArg Answer.expression same, after⟩
  | operand token =>
    obtain ⟨same, after⟩ := both.run fun _ => (matching_inFront _).operand token
    exact ⟨congrArg Answer.expression same, after⟩

theorem answers (both : Extends beyond one other) (requests : List Request) :
    (one.answers requests).1 = (other.answers requests).1 ∧
      Extends beyond (one.answers requests).2 (other.answers requests).2 := by
  induction requests generalizing one other with
  | nil => exact ⟨rfl, both⟩
  | cons request requests ih =>
    obtain ⟨first, next⟩ := both.answer request
    obtain ⟨others, last⟩ := ih next
    exact ⟨congrArg₂ List.cons first others, last⟩

end Extends

structure Takes (parser : Parser) (used : List Token) (after : Parser) : Prop where
  free : EofFree used
  tokens : parser.tokens = used ++ after.tokens

theorem run_takes {parser : Parser} {read : TokenSource → Step TokenSource α}
    {plain : List Token → Step (List Token) α}
    (alike : ∀ beyond, ReadAlike (InFront beyond) read plain)
    (leaves : (plain parser.readable).rest <:+ parser.readable) :
    ∃ used, parser.Takes used (parser.run read).2 ∧
      (used = [] ↔ (plain parser.readable).rest = parser.readable) := by
  obtain ⟨used, whole⟩ := leaves
  have left : (parser.run read).2.tokens = (plain parser.readable).rest ++ parser.unread :=
    (alike _ (inFront_readable parser)).rest.tokens
  refine ⟨used, ⟨?_, ?_⟩, ?_, ?_⟩
  · intro token member
    apply eofFree_readable parser
    rw [← whole]
    exact List.mem_append_left _ member
  · rw [← readable_append_unread parser, left, ← List.append_assoc, whole]
  · rintro rfl
    exact whole
  · intro same
    rw [same] at whole
    exact List.append_left_eq_self.1 whole

theorem readable_lex (source : String) :
    (ofTokens (lex source)).readable = (lex source).dropLast := by
  obtain ⟨others, proper, whole⟩ := (tiled_lex source).ends
  rw [whole, readable_append proper, List.dropLast_concat]
  exact List.append_nil others

/-- Whatever a parser is asked for, in whatever order, it answers as if its tokens ended in front of
the first end marker, and from the marker on it still has them all in the end. So it answers alike
over a tokenizer, over the tokens of the text, and over those without the marker. -/
theorem nothing_from_the_end_marker_on_is_read (tokens : List Token) (requests : List Request) :
    ((ofTokens tokens).answers requests).1 =
        ((ofTokens (tokens.takeWhile (·.kind ≠ .eof))).answers requests).1 ∧
      ((ofTokens tokens).answers requests).2.tokens =
        ((ofTokens (tokens.takeWhile (·.kind ≠ .eof))).answers requests).2.tokens ++
          tokens.dropWhile (·.kind ≠ .eof) ∧
      ∀ source,
        ((ofTokenizer (.ofSource source)).answers requests).1 =
            ((ofTokens (lex source)).answers requests).1 ∧
          ((ofTokens (lex source)).answers requests).1 =
            ((ofTokens (lex source).dropLast).answers requests).1 := by
  obtain ⟨same, last⟩ := (extends_readable (ofTokens tokens)).answers requests
  refine ⟨same, last.tokens, ?_⟩
  intro source
  -- both the tokenizer and the list extend the tokens in front of the marker
  have tokenizer := ((extends_readable (ofTokenizer (.ofSource source))).answers requests).1
  have list := ((extends_readable (ofTokens (lex source))).answers requests).1
  rw [← readable_lex]
  exact ⟨tokenizer.trans list.symm, list⟩

end Parser

end Monkey
