import Mathlib.Data.List.Infix
import Mathlib.Data.List.NodupEquivFin
import Mathlib.Data.List.TakeWhile
import Monkey.Proofs.Parse.Acceptance
import Monkey.Proofs.Token.Tiling

/-!
Errors are reported in order. Among the tokens that a reader uses up are those of the errors that it
met, one behind the other, so no token is reported twice. Only the last error can be that the tokens
ended too early, since nothing is read behind it.
-/
namespace Monkey
open Supply

def carried (errors : List ParseError) : List Token := errors.filterMap ParseError.token?

theorem carried_append (early late : List ParseError) :
    carried (early ++ late) = carried early ++ carried late := List.filterMap_append

theorem carried_of_some {error : ParseError} {token : Token} (carries : error.token? = some token) :
    carried [error] = [token] := by
  simp [carried, carries]

theorem carried_of_none {error : ParseError} (carries : error.token? = none) :
    carried [error] = [] := by
  simp [carried, carries]

def Pointing (errors : List ParseError) : Prop :=
  ∀ error ∈ errors.dropLast, error.token?.isSome

theorem Pointing.behind {early late : List ParseError}
    (all : ∀ error ∈ early, error.token?.isSome) (pointing : Pointing late) :
    Pointing (early ++ late) := by
  intro error here
  by_cases empty : late = []
  · rw [empty, List.append_nil] at here
    exact all error (List.mem_of_mem_dropLast here)
  · rw [List.dropLast_append_of_ne_nil empty] at here
    rcases List.mem_append.1 here with here | here
    · exact all error here
    · exact pointing error here

/-- If all errors in front of it point at tokens as well, the token that an error points at has the
number of the error. -/
theorem carried_getElem? {errors : List ParseError} (pointing : Pointing errors) {i : Nat}
    {error : ParseError} {token : Token} (found : errors[i]? = some error)
    (carries : error.token? = some token) : (carried errors)[i]? = some token := by
  induction errors generalizing i with
  | nil => contradiction
  | cons first others ih =>
    cases i with
    | zero =>
      cases found
      simp [carried, carries]
    | succ i =>
      rw [List.getElem?_cons_succ] at found
      have more : others ≠ [] := by
        rintro rfl
        contradiction
      have whole : (first :: others).dropLast = first :: others.dropLast :=
        List.dropLast_cons_of_ne_nil more
      unfold Pointing at pointing
      rw [whole] at pointing
      obtain ⟨points, others'⟩ := List.forall_mem_cons.1 pointing
      obtain ⟨front, points⟩ := Option.isSome_iff_exists.1 points
      have step : carried (first :: others) = front :: carried others := by
        simp [carried, points]
      rw [step, List.getElem?_cons_succ]
      exact ih others' found

namespace Parse

/-- What a reader that used up the tokens reports: the errors it recorded, all of which point at
tokens, and the one it ended in, if in any. -/
structure Accounts (ending : Option ParseError) (recorded : List ParseError)
    (tokens : List Token) : Prop where
  order : (carried (recorded ++ ending.toList)).Sublist tokens
  pointing : ∀ error ∈ recorded, error.token?.isSome

namespace Accounts

variable {ending : Option ParseError} {early late recorded : List ParseError}
  {us vs passed tokens : List Token} {error : ParseError} {token : Token}

theorem of_none (tokens : List Token) (carries : ∀ error ∈ ending, error.token? = none) :
    Accounts ending [] tokens where
  order := by
    cases ending with
    | none => exact List.nil_sublist _
    | some error =>
      rw [List.nil_append, Option.toList_some, carried_of_none (carries error rfl)]
      exact List.nil_sublist _
  pointing := by simp

theorem behind (first : Accounts none early us) (second : Accounts ending late vs) :
    Accounts ending (early ++ late) (us ++ vs) where
  order := by
    have front := first.order
    rw [Option.toList_none, List.append_nil] at front
    rw [List.append_assoc, carried_append]
    exact front.append second.order
  pointing := List.forall_mem_append.2 ⟨first.pointing, second.pointing⟩

theorem record (carries : error.token? = some token)
    (accounts : Accounts (some error) recorded us) :
    Accounts none (recorded ++ [error]) us where
  order := by
    rw [Option.toList_none, List.append_nil]
    exact accounts.order
  pointing := by
    apply List.forall_mem_append.2 ⟨accounts.pointing, _⟩
    simp [carries]

theorem pass (accounts : Accounts ending recorded us) (passed : List Token) :
    Accounts ending recorded (us ++ passed) where
  order := accounts.order.trans (List.sublist_append_left us passed)
  pointing := accounts.pointing

theorem cons (token : Token) (accounts : Accounts ending recorded us) :
    Accounts ending recorded (token :: us) where
  order := accounts.order.cons token
  pointing := accounts.pointing

end Accounts

mutual

theorem Uses.accounts {ending : Option ParseError} {recorded : List ParseError}
    {tokens : List Token} : Uses ending recorded tokens → Accounts ending recorded tokens
  | .nothing => .of_none _ (by simp)
  | .token _ => .of_none _ (by simp)
  | @Uses.fault error token carries => by
    refine ⟨?_, by simp⟩
    rw [List.nil_append, Option.toList_some, carried_of_some carries]
  | .ended carries => .of_none _ (by simpa using carries)
  | .sequence first second => first.accounts.behind second.accounts
  | .block _ inside => inside.accounts.cons _

theorem UsesInside.accounts {ending : Option ParseError} {recorded : List ParseError}
    {tokens : List Token} : UsesInside ending recorded tokens → Accounts ending recorded tokens
  | .close _ => .of_none _ (by simp)
  | .ended carries => .of_none _ (by simpa using carries)
  | .abandoned _ statement => statement.accounts
  | .statement first others => first.accounts.behind others.accounts
  | .semicolon _ others => others.accounts.cons _
  | .closedByFault carries _ statement => statement.accounts.record carries
  | @UsesInside.resumed _ _ _ _ _ _ passed _ carries _ statement _ others => by
    have front := (statement.accounts.record carries).pass passed
    rw [← List.append_assoc, List.append_cons]
    exact front.behind others.accounts
  | @UsesInside.lost _ last _ _ _ _ passed carries _ statement _ premature => by
    have front := statement.accounts.record carries
    have ended : Accounts (some last) [] passed := .of_none passed (by simpa using premature)
    have whole := front.behind ended
    rwa [List.append_nil] at whole

end

theorem skip_suffix (place : Place) (depth : Nat) (tokens : List Token) :
    skip place depth tokens <:+ tokens := by
  induction tokens generalizing depth with
  | nil =>
    rw [skip_nil]
  | cons token rest ih =>
    have longer := fun depth => (ih depth).trans (List.suffix_cons token rest)
    rw [skip_eq]
    simp only [peek?_cons, advance_cons]
    repeat' split
    all_goals first
      | exact longer _
      | exact List.suffix_refl _
      | exact List.suffix_cons _ _

theorem resumeAtTop_suffix (error : ParseError) (tokens : List Token) :
    resumeAtTop error tokens <:+ tokens := by
  unfold resumeAtTop
  split
  · exact List.suffix_refl _
  · exact skip_suffix ..
  · exact skip_suffix ..

theorem dropSemicolon_suffix (tokens : List Token) : dropSemicolon tokens <:+ tokens := by
  unfold dropSemicolon
  cases taken : take? .semicolon tokens with
  | none => exact List.suffix_refl _
  | some rest =>
    obtain ⟨token, rfl, -⟩ := eq_cons_of_take? taken
    exact List.suffix_cons _ _

structure Reports (tokens : List Token) (errors : List ParseError) : Prop where
  order : (carried errors).Sublist tokens
  pointing : Pointing errors

theorem Reports.behind {early late : List ParseError} {us vs more : List Token}
    (first : Accounts none early us) (others : Reports more late) (rest : more <:+ vs) :
    Reports (us ++ vs) (early ++ late) where
  order := by
    have front := first.order
    rw [Option.toList_none, List.append_nil] at front
    rw [carried_append]
    exact front.append (others.order.trans rest.sublist)
  pointing := others.pointing.behind first.pointing

theorem statements_report (tokens : List Token) : Reports tokens (statements tokens).errors := by
  induction size : tokens.length using Nat.strongRecOn generalizing tokens with
  | ind n ih =>
    by_cases empty : tokens = []
    · rw [empty, statements_nil]
      exact ⟨List.nil_sublist _, by simp [Pointing]⟩
    have shorter := statement_rest_length_lt empty
    cases (allRead tokens).statement with
    | @value used rest recorded value uses same =>
      rw [same rest rfl] at shorter
      have less := Nat.lt_of_le_of_lt (dropSemicolon_length_le rest) shorter
      rw [statements_of_ok (peek?_ne_none empty) (same rest rfl)]
      exact .behind uses.accounts (ih _ (size ▸ less) _ rfl) (dropSemicolon_suffix rest)
    | @fault front rest token recorded error carries uses same =>
      rw [same rest] at shorter
      have less := Nat.lt_of_le_of_lt (resumeAtTop_length_le error rest) shorter
      rw [statements_of_error (peek?_ne_none empty) (same rest)]
      show Reports _ (recorded ++ error :: (statements (resumeAtTop error rest)).errors)
      rw [List.append_cons recorded, List.append_cons front]
      exact .behind (uses.accounts.record carries) (ih _ (size ▸ less) _ rfl)
        (resumeAtTop_suffix error rest)
    | @ended _ recorded error carries uses step =>
      rw [statements_of_error (peek?_ne_none empty) step]
      have nothing : resumeAtTop error [] = [] := List.suffix_nil.1 (resumeAtTop_suffix error [])
      show Reports _ (recorded ++ error :: (statements (resumeAtTop error [])).errors)
      rw [nothing, statements_nil]
      exact ⟨uses.accounts.order, .behind uses.accounts.pointing (by simp [Pointing])⟩

end Parse

theorem lex_starts (source : String) :
    (Parser.ofTokens (lex source)).readable.Pairwise fun one other => one.start < other.start := by
  have tiled := tiled_lex source
  have ordered := tiled.ordered.sublist (List.takeWhile_sublist (·.kind ≠ .eof))
  apply ordered.imp_of_mem
  intro one other here _ behind
  have member := (List.takeWhile_sublist _).subset here
  have proper : one.kind ≠ .eof := by simpa using List.mem_takeWhile_imp here
  have long := (@Tiled.found _ _ _ tiled "" rfl one member proper).1
  exact Nat.lt_of_lt_of_le long behind

/-- The errors point at tokens in front of the end mark, each further on than the one before it, and
in a text at a later byte. Only the last one can say that the tokens ended too early. -/
theorem errors_are_in_order {tokens : List Token} {errors : List ParseError}
    (failed : (Parser.ofTokens tokens).program.1 = .error errors) :
    (∃ place : Nat → Nat, StrictMono place ∧
      ∀ (i : Nat) (error : ParseError) (token : Token), errors[i]? = some error →
        error.token? = some token →
        (tokens.takeWhile (·.kind ≠ .eof))[place i]? = some token) ∧
    (∀ (i : Nat) (expected : Expected), errors[i]? = some (.prematureEnd expected) →
      i + 1 = errors.length) ∧
    ∀ source, tokens = lex source →
      (errors.filterMap ParseError.token?).Pairwise fun one other => one.start < other.start := by
  obtain ⟨-, reported⟩ := Parse.program_eq_error_iff.1 failed
  obtain ⟨order, pointing⟩ := Parse.statements_report (Parser.ofTokens tokens).readable
  rw [reported] at order pointing
  refine ⟨?_, ?_, ?_⟩
  · obtain ⟨place, found⟩ := List.sublist_iff_exists_orderEmbedding_getElem?_eq.1 order
    refine ⟨place, place.strictMono, ?_⟩
    intro i error token here carries
    exact (found i).symm.trans (carried_getElem? pointing here carries)
  · intro i expected here
    have inside : i < errors.length := (List.getElem?_eq_some_iff.1 here).1
    by_contra earlier
    have member : ParseError.prematureEnd expected ∈ errors.dropLast := by
      apply List.mem_of_getElem? (i := i)
      rw [List.getElem?_dropLast, if_pos (by omega), here]
    have points := pointing _ member
    contradiction
  · rintro source rfl
    exact (lex_starts source).sublist order

theorem three_faults_in_order :
    (Parser.ofTokens (lex "let x 5; @; fn(x")).program.1 =
        .error [.unexpectedToken (.token .assign) ⟨.int "5", 6, 7⟩,
          .noRule ⟨.illegal "@", 9, 10⟩, .prematureEnd (.token .rparen)] ∧
      ∃ place : Nat → Nat, StrictMono place ∧
        ((lex "let x 5; @; fn(x").takeWhile (·.kind ≠ .eof))[place 0]? =
          some ⟨.int "5", 6, 7⟩ ∧
        ((lex "let x 5; @; fn(x").takeWhile (·.kind ≠ .eof))[place 1]? =
          some ⟨.illegal "@", 9, 10⟩ := by
  have failed : (Parser.ofTokens (lex "let x 5; @; fn(x")).program.1 =
      .error [.unexpectedToken (.token .assign) ⟨.int "5", 6, 7⟩,
        .noRule ⟨.illegal "@", 9, 10⟩, .prematureEnd (.token .rparen)] :=
    Parse.program_eq_error_iff.2 ⟨List.cons_ne_nil _ _, by decide +kernel⟩
  obtain ⟨⟨place, increasing, found⟩, -, -⟩ := errors_are_in_order failed
  exact ⟨failed, place, increasing, found 0 _ _ rfl rfl, found 1 _ _ rfl rfl⟩

end Monkey
