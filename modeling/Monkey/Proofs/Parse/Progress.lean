import Monkey.Proofs.Parse.Boundary
import Monkey.Proofs.Parse.EndMarker

/-!
Reading gets on. A statement or an expression takes a token whenever there is one, also when it
fails, and so reading a program comes to the end. Every error is paid for by a token of its own: by
the one that it points at or, if the tokens ended too early, by the one that the statement began
with.
-/
namespace Monkey
open Supply

namespace Parse

variable {early late recorded : List ParseError} {us vs tokens : List Token}

/-- There are more tokens than errors, or there is nothing at all. -/
def Pays (tokens : List Token) (recorded : List ParseError) : Prop :=
  recorded.length < tokens.length ∨ tokens = [] ∧ recorded = []

namespace Pays

theorem le (pays : Pays tokens recorded) : recorded.length ≤ tokens.length := by
  rcases pays with more | ⟨rfl, rfl⟩
  · exact Nat.le_of_lt more
  · exact Nat.le_refl _

theorem lt (pays : Pays tokens recorded) (nonempty : tokens ≠ []) :
    recorded.length < tokens.length := by
  rcases pays with more | ⟨empty, -⟩
  · exact more
  · exact absurd empty nonempty

theorem append (first : Pays us early) (second : Pays vs late) :
    Pays (us ++ vs) (early ++ late) := by
  have behind := second.le
  rcases first with more | ⟨rfl, rfl⟩
  · left
    rw [List.length_append, List.length_append]
    omega
  · exact second

end Pays

theorem lt_of_fault {error : ParseError} {token : Token} (carries : error.token? = some token)
    (uses : Uses (some error) recorded us) (pays : Pays us recorded) :
    recorded.length < us.length := by
  obtain ⟨front, rfl, -⟩ := (fits_fault carries).1 uses.fits
  exact pays.lt (List.append_ne_nil_of_right_ne_nil front (List.cons_ne_nil token []))

mutual

theorem Uses.pays {ending : Option ParseError} {recorded : List ParseError} {tokens : List Token} :
    Uses ending recorded tokens → Pays tokens recorded
  | .nothing => .inr ⟨rfl, rfl⟩
  | .token _ => .inl Nat.one_pos
  | .fault _ => .inl Nat.one_pos
  | .ended _ => .inr ⟨rfl, rfl⟩
  | .sequence first second => first.pays.append second.pays
  | .block _ inside => .inl (Nat.lt_succ_of_le inside.pays)

theorem UsesInside.pays {ending : Option ParseError} {recorded : List ParseError}
    {tokens : List Token} : UsesInside ending recorded tokens → recorded.length ≤ tokens.length
  | .close _ => Nat.zero_le _
  | .ended _ => Nat.le_refl _
  | .abandoned _ statement => statement.pays.le
  | .statement first others => by
    have front := first.pays.le
    have behind := others.pays
    rw [List.length_append, List.length_append]
    omega
  | .semicolon _ others => Nat.le_succ_of_le others.pays
  | .closedByFault carries _ statement => by
    rw [List.length_append]
    exact lt_of_fault carries statement statement.pays
  | .resumed carries _ statement _ others => by
    have front := lt_of_fault carries statement statement.pays
    have behind := others.pays
    rw [List.length_append, List.length_append, List.length_append, List.length_cons]
    omega
  | .lost carries _ statement _ _ => by
    have front := lt_of_fault carries statement statement.pays
    rw [List.length_append, List.length_append, List.length_singleton]
    omega

end

/-- Each statement and each error that reading to the end gives has a token of its own. -/
theorem statements_paid (tokens : List Token) :
    (statements tokens).program.length + (statements tokens).errors.length ≤ tokens.length := by
  induction size : tokens.length using Nat.strongRecOn generalizing tokens with
  | ind n ih =>
    subst size
    by_cases empty : tokens = []
    · rw [empty, statements_nil]
      exact Nat.le_refl _
    have shorter := statement_rest_length_lt empty
    cases (allRead tokens).statement with
    | @value used rest recorded value uses same =>
      rw [same rest rfl] at shorter
      have dropped := dropSemicolon_length_le rest
      have behind := ih _ (Nat.lt_of_le_of_lt dropped shorter) _ rfl
      have taken : used ≠ [] := by
        rintro rfl
        exact Nat.lt_irrefl _ shorter
      have front := uses.pays.lt taken
      rw [statements_of_ok (peek?_ne_none empty) (same rest rfl)]
      simp only [Reading.addStatement, List.length_cons, List.length_append]
      omega
    | @fault front rest token recorded error carries uses same =>
      rw [same rest] at shorter
      have resumed := resumeAtTop_length_le error rest
      have behind := ih _ (Nat.lt_of_le_of_lt resumed shorter) _ rfl
      -- the token at fault was used up, and pays for the error that was recovered from
      have paid := lt_of_fault carries uses uses.pays
      rw [statements_of_error (peek?_ne_none empty) (same rest)]
      simp only [Reading.addError, List.length_cons, List.length_append, List.length_nil] at paid ⊢
      omega
    | @ended _ recorded error carries uses step =>
      have paid := uses.pays.lt empty
      have nothing := resumeAtTop_length_le error []
      rw [statements_of_error (peek?_ne_none empty) step,
        List.eq_nil_of_length_eq_zero (Nat.le_zero.1 nothing), statements_nil]
      simp only [Reading.addError, List.length_cons, List.length_append, List.length_nil]
      omega

theorem expression_rest_length_lt (level : Level) {tokens : List Token} (nonempty : tokens ≠ []) :
    (expression level tokens).rest.length < tokens.length := by
  obtain ⟨token, rest, rfl⟩ := List.exists_cons_of_ne_nil nonempty
  have first := (operand_suffix token rest).length_le
  rw [expression_cons, Step.andThen, List.length_cons]
  split
  · next value _ =>
    have others := ((allRead (operand token rest).rest).climb level value).rest_length_le
    exact Nat.lt_succ_of_le (Nat.le_trans others first)
  · exact Nat.lt_succ_of_le first

end Parse

namespace Parser
open Parse

variable {α : Type}

def Consumes (parser after : Parser) : Prop :=
  ∃ used, used ≠ [] ∧ EofFree used ∧ parser.tokens = used ++ after.tokens

theorem run_consumes {parser : Parser} {read : TokenSource → Step TokenSource α}
    {plain : List Token → Step (List Token) α}
    (alike : ∀ beyond, ReadAlike (InFront beyond) read plain)
    (leaves : (plain parser.readable).rest <:+ parser.readable)
    (shorter : (plain parser.readable).rest.length < parser.readable.length) :
    parser.Consumes (parser.run read).2 := by
  obtain ⟨used, taken, nothing⟩ := run_takes alike leaves
  refine ⟨used, ?_, taken.free, taken.tokens⟩
  intro empty
  exact Nat.ne_of_lt shorter (congrArg List.length (nothing.1 empty))

theorem statement_consumes {parser : Parser} (more : parser.readable ≠ []) :
    parser.Consumes parser.statement.2 :=
  run_consumes (fun _ => (matching_inFront _).statement) (allRead _).statement.suffix
    (statement_rest_length_lt more)

theorem expression_consumes {parser : Parser} (more : parser.readable ≠ []) (level : Level) :
    parser.Consumes (parser.expression level).2 :=
  run_consumes (fun _ => (matching_inFront _).expression level)
    ((allRead _).expression level).suffix (expression_rest_length_lt level more)

/-- Reading a program leaves the end marker and what is behind it, and no error pending. -/
theorem program_after (parser : Parser) :
    InFront parser.unread parser.program.2.source [] ∧ parser.program.2.pending = [] := by
  obtain ⟨-, -, left⟩ := statements_alike parser
  simp only [program]
  cases parser.pending ++ (statements parser.source).errors with
  | nil => exact ⟨left, rfl⟩
  | cons first others => exact ⟨left, rfl⟩

theorem program_of_readable_nil {parser : Parser} (ended : parser.readable = [])
    (quiet : parser.pending = []) : parser.program.1 = .ok [] := by
  obtain ⟨program, errors, -⟩ := statements_alike parser
  rw [Parser.program, program, errors, ended, quiet, statements_nil]
  rfl

/-- Reading a program comes to an end, in a program or in errors, of which there are no more than
tokens in front of the end marker. It leaves nothing that can be read and no error, so that reading
again gives the empty program. And while there is a token in front of the end marker, reading a
statement or an expression takes one, whatever comes of it. -/
theorem reading_gets_on_and_ends :
    (∀ tokens : List Token,
      let parser := ofTokens tokens
      let readable := tokens.takeWhile (·.kind ≠ .eof)
      ((∃ program, parser.program.1 = .ok program ∧ program.length ≤ readable.length) ∨
        ∃ errors, parser.program.1 = .error errors ∧ errors ≠ [] ∧
          errors.length ≤ readable.length) ∧
      parser.program.2.readable = [] ∧ parser.program.2.pending = [] ∧
      parser.program.2.program.1 = .ok []) ∧
    ∀ parser : Parser, parser.readable ≠ [] →
      parser.Consumes parser.statement.2 ∧
      ∀ level, parser.Consumes (parser.expression level).2 := by
  constructor
  · intro tokens parser readable
    have paid : (statements readable).program.length + (statements readable).errors.length ≤
        readable.length := statements_paid readable
    obtain ⟨after, quiet⟩ := program_after parser
    have left : parser.program.2.readable = [] := after.readable_eq _
    refine ⟨?_, left, quiet, program_of_readable_nil left quiet⟩
    cases result : parser.program.1 with
    | ok program =>
      have clean := program_eq_ok_iff.1 result
      rw [show statements readable = ⟨program, [], []⟩ from clean] at paid
      exact .inl ⟨program, rfl, paid⟩
    | error errors =>
      obtain ⟨nonempty, reported⟩ := program_eq_error_iff.1 result
      rw [show (statements readable).errors = errors from reported] at paid
      exact .inr ⟨errors, rfl, nonempty, Nat.le_of_add_left_le paid⟩
  · intro parser more
    exact ⟨statement_consumes more, expression_consumes more⟩

theorem unfinished_function_is_read_to_its_end :
    let tokens := lex "fn() \x7b let 5; @"
    let errors : List ParseError := [.unexpectedToken .identifier ⟨.int "5", 11, 12⟩,
      .noRule ⟨.illegal "@", 14, 15⟩, .prematureEnd (.token .rbrace)]
    (ofTokens tokens).program.1 = .error errors ∧
      errors.length ≤ (tokens.takeWhile (·.kind ≠ .eof)).length ∧
      (ofTokens tokens).readable ≠ [] ∧
      (ofTokens tokens).Consumes (ofTokens tokens).statement.2 := by
  intro tokens errors
  have failed : (ofTokens tokens).program.1 = .error errors :=
    program_eq_error_iff.2 ⟨List.cons_ne_nil _ _, by decide +kernel⟩
  have more : (ofTokens tokens).readable ≠ [] := by decide +kernel
  obtain ⟨ends, consumes⟩ := reading_gets_on_and_ends
  refine ⟨failed, ?_, more, (consumes _ more).1⟩
  rcases (ends tokens).1 with ⟨program, accepted, -⟩ | ⟨others, refused, -, few⟩
  · rw [failed] at accepted
    contradiction
  · rw [failed] at refused
    cases refused
    exact few

end Parser

end Monkey
