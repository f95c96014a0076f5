import Monkey.Proofs.Parse.Boundary
import Monkey.Proofs.Parse.EndMarker

/-!
Where a block ends. Mistakes inside a block may be made at any token, at braces and semicolons among
others, and each is recovered from in its own way. The block ends all the same at the brace that
matches its opening one, which is found by counting braces and nothing else.
-/
namespace Monkey

namespace Parse

structure Matched (tokens inside : List Token) (close : Token) (rest : List Token) : Prop where
  splits : tokens = inside ++ close :: rest
  readable : EofFree inside
  balanced : Balanced inside
  closing : close.kind = .rbrace

theorem depthAfter_matched {inside rest : List Token} {close : Token} (balanced : Balanced inside)
    (closing : close.kind = .rbrace) : depthAfter 0 (inside ++ close :: rest) = none := by
  have level := balanced_iff_depthAfter.1 balanced
  rw [depthAfter_append_of_some level, depthAfter_rbrace_zero closing]

/-- No brace is matched twice. -/
theorem eq_of_balanced {inside inside' rest rest' : List Token} {close close' : Token}
    (balanced : Balanced inside) (balanced' : Balanced inside') (closing : close.kind = .rbrace)
    (closing' : close'.kind = .rbrace)
    (same : inside ++ close :: rest = inside' ++ close' :: rest') :
    inside = inside' ∧ close = close' ∧ rest = rest' := by
  -- the longer one would have the other's brace inside it, and not be balanced
  have equal : inside = inside' := by
    rcases List.append_eq_append_iff.1 same with ⟨more, longer, split⟩ | ⟨more, longer, split⟩
    · cases more with
      | nil => rw [longer, List.append_nil]
      | cons token more =>
        cases split
        have level := balanced_iff_depthAfter.1 balanced'
        rw [longer, depthAfter_matched balanced closing] at level
        contradiction
    · cases more with
      | nil => rw [longer, List.append_nil]
      | cons token more =>
        cases split
        have level := balanced_iff_depthAfter.1 balanced
        rw [longer, depthAfter_matched balanced' closing'] at level
        contradiction
  subst equal
  obtain ⟨rfl, rfl⟩ := List.cons.inj (List.append_cancel_left same)
  exact ⟨rfl, rfl, rfl⟩

/-- How the reading of a block ends that was begun behind its opening brace. -/
inductive BlockEnds : List Token → Step (List Token) Block → Prop
  | closed {inside rest : List Token} {close : Token} (body : Block) (recorded : List ParseError)
    (balanced : Balanced inside) (closing : close.kind = .rbrace) :
    BlockEnds (inside ++ close :: rest) ⟨.ok body, recorded, rest⟩
  | unclosed {tokens : List Token} {depth : Nat} (expected : Expected) (recorded : List ParseError)
    (after : depthAfter 0 tokens = some depth) :
    BlockEnds tokens ⟨.error (.prematureEnd expected), recorded, []⟩

theorem eq_prematureEnd {error : ParseError} (carries : error.token? = none) :
    ∃ expected, error = .prematureEnd expected := by
  cases error with
  | prematureEnd expected => exact ⟨expected, rfl⟩
  | _ => contradiction

theorem blockRest_ends (tokens : List Token) : BlockEnds tokens (blockRest tokens) := by
  cases (allRead tokens).blockRest with
  | @value used rest recorded body uses same =>
    obtain ⟨inside, close, rfl, closing, level⟩ := uses.fits
    rw [same rest rfl, List.append_assoc]
    exact .closed body recorded (balanced_iff_depthAfter.2 level) closing
  | fault front error carries uses same =>
    -- a block recovers from every error that carries a token
    obtain ⟨premature, -⟩ := uses.fits
    rw [carries] at premature
    contradiction
  | @ended _ recorded error carries uses step =>
    obtain ⟨-, depth, after⟩ := uses.fits
    obtain ⟨expected, rfl⟩ := eq_prematureEnd carries
    rw [step]
    exact .unclosed expected recorded after

/-- A matching brace among all tokens is one among those that can be read. -/
theorem Matched.readable_eq {tokens inside rest : List Token} {close : Token}
    (matched : Matched tokens inside close rest) :
    (Parser.ofTokens tokens).readable = inside ++ close :: (Parser.ofTokens rest).readable := by
  obtain ⟨rfl, free, -, closing⟩ := matched
  have last : EofFree [close] := List.forall_mem_singleton.2 (by rw [closing]; decide)
  rw [readable_append free, ← List.singleton_append, readable_append last]
  rfl

theorem matched_of_readable {tokens inside rest : List Token} {close : Token}
    (balanced : Balanced inside) (closing : close.kind = .rbrace)
    (here : (Parser.ofTokens tokens).readable = inside ++ close :: rest) :
    Matched tokens inside close (rest ++ (Parser.ofTokens tokens).unread) where
  splits := by
    have whole := readable_append_unread (Parser.ofTokens tokens)
    rw [here, List.append_assoc] at whole
    exact whole.symm
  readable := by
    intro token member
    apply eofFree_readable (Parser.ofTokens tokens)
    rw [here]
    exact List.mem_append_left _ member
  balanced := balanced
  closing := closing

/-- Behind its opening brace the block goes on with the tokens in front of the end marker. -/
theorem run_block {parser : Parser} {opening : Token} {tokens : List Token}
    (next : parser.tokens = opening :: tokens) (opens : opening.kind = .lbrace) :
    (parser.run block).1 = (blockRest (Parser.ofTokens tokens).readable).result ∧
      (parser.run block).2.tokens =
        (blockRest (Parser.ofTokens tokens).readable).rest ++ (Parser.ofTokens tokens).unread := by
  have first : EofFree [opening] := List.forall_mem_singleton.2 (by rw [opens]; decide)
  have whole : parser.tokens = [opening] ++ tokens := next
  have readable : parser.readable = opening :: (Parser.ofTokens tokens).readable := by
    show (Parser.ofTokens parser.tokens).readable = _
    rw [whole, readable_append first]
    rfl
  have unread : parser.unread = (Parser.ofTokens tokens).unread := by
    show (Parser.ofTokens parser.tokens).unread = _
    rw [whole, unread_append first]
  obtain ⟨result, left, -⟩ := run_alike (fun _ => (matching_inFront _).block) parser
  rw [readable, block_eq, expect_found opens, Step.andThen_ok] at result left
  rw [unread] at left
  exact ⟨result, left.tokens⟩

/-- A block is read whenever its opening brace is matched in front of the end marker, whatever
stands inside it and behind it, and is read up to the matching brace and no further. If there is no
such brace, the input ended too early, and nothing else is said. -/
theorem block_ends_at_matching_brace {parser : Parser} {opening : Token} {tokens : List Token}
    (next : parser.tokens = opening :: tokens) (opens : opening.kind = .lbrace) :
    ((∃ body, (parser.run block).1 = .ok body) ↔
      ∃ inside close rest, Matched tokens inside close rest) ∧
    (∀ inside close rest, Matched tokens inside close rest → (parser.run block).2.tokens = rest) ∧
    ((¬ ∃ inside close rest, Matched tokens inside close rest) →
      ∃ expected, (parser.run block).1 = .error (.prematureEnd expected)) := by
  obtain ⟨result, left⟩ := run_block next opens
  rw [result, left]
  have ends := blockRest_ends (Parser.ofTokens tokens).readable
  generalize whole : (Parser.ofTokens tokens).readable = inFront at ends
  generalize blockRest inFront = step at ends
  cases ends with
  | @closed inside rest close body recorded balanced closing =>
    have here := matched_of_readable balanced closing whole
    refine ⟨⟨fun _ => ⟨_, _, _, here⟩, fun _ => ⟨body, rfl⟩⟩, ?_, ?_⟩
    · intro inside' close' rest' other
      exact (eq_of_balanced balanced other.balanced closing other.closing
        (here.splits.symm.trans other.splits)).2.2
    · exact fun unmatched => absurd ⟨_, _, _, here⟩ unmatched
  | @unclosed _ depth expected recorded after =>
    have unmatched : ¬ ∃ inside close rest, Matched tokens inside close rest := by
      rintro ⟨inside, close, rest, matched⟩
      have here := matched.readable_eq
      obtain ⟨-, -, balanced, closing⟩ := matched
      rw [← whole, here, depthAfter_matched balanced closing] at after
      contradiction
    refine ⟨⟨?_, fun matched => absurd matched unmatched⟩, ?_, fun _ => ⟨expected, rfl⟩⟩
    · rintro ⟨body, read⟩
      contradiction
    · intro inside close rest matched
      exact absurd ⟨inside, close, rest, matched⟩ unmatched

/-- What `let { } ; @` is made of: a brace where a name was due, and no token of the language. -/
def faultyInside : List Token :=
  [⟨.letKeyword, 2, 5⟩, ⟨.lbrace, 6, 7⟩, ⟨.rbrace, 8, 9⟩, ⟨.semicolon, 10, 11⟩,
    ⟨.illegal "@", 12, 13⟩]

theorem faultyInside_read_to_its_brace :
    let opening : Token := ⟨.lbrace, 0, 1⟩
    let close : Token := ⟨.rbrace, 14, 15⟩
    let name : Token := ⟨.ident "x", 16, 17⟩
    let parser := Parser.ofTokens (opening :: faultyInside ++ [close, name])
    Matched (faultyInside ++ [close, name]) faultyInside close [name] ∧
      (∃ body, (parser.run block).1 = .ok body) ∧ (parser.run block).2.tokens = [name] := by
  intro opening close name parser
  have matched : Matched (faultyInside ++ [close, name]) faultyInside close [name] :=
    ⟨rfl, by decide, balanced_iff_depthAfter.2 (by decide), rfl⟩
  obtain ⟨read, left, -⟩ :=
    block_ends_at_matching_brace (show parser.tokens = opening :: (faultyInside ++ _) from rfl) rfl
  exact ⟨matched, read.2 ⟨_, _, _, matched⟩, left _ _ _ matched⟩

end Parse

end Monkey
