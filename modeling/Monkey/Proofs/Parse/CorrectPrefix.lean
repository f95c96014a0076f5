import Monkey.Proofs.Parse.Acceptance

/-!
The first error stands where the input goes wrong, neither earlier nor later: what is in front of it
is the beginning of some program, and with its token it is the beginning of none.
-/
namespace Monkey.Parse
open Grammar
open Token (Kind)

def Accepted (tokens : List Token) : Prop :=
  ∃ program, (Parser.ofTokens tokens).program.1 = .ok program

theorem accepted_of_statements {tokens : List Token} {code : List Stmt}
    (derived : Statements (tokens.map Token.kind) code) : Accepted tokens := by
  have free : EofFree tokens := by
    intro token here kind
    exact derived.eof_notMem (kind ▸ List.mem_map_of_mem here)
  have clean : statements (Parser.ofTokens tokens).readable = ⟨code, [], []⟩ := by
    rw [readable_of_eofFree free]
    exact statements_eq_iff.2 derived
  exact ⟨code, program_eq_ok_iff.2 clean⟩

theorem accepted_of_viable {tokens : List Token}
    (viable : Viable (Closed [] Statements) (tokens.map Token.kind)) :
    ∃ more, Accepted (tokens ++ more) := by
  obtain ⟨more, code, us, whole, derived⟩ := viable
  rw [List.append_nil] at whole
  have kinds : (tokens ++ unplaced more).map Token.kind = us := by
    rw [List.map_append, unplaced_kinds, whole]
  rw [← kinds] at derived
  exact ⟨unplaced more, accepted_of_statements derived⟩

theorem not_accepted_of_first {tokens : List Token} {error : ParseError}
    (first : (everything (Parser.ofTokens tokens).readable).first? = some error) :
    ¬ Accepted tokens := by
  rintro ⟨program, accepted⟩
  rw [everything, program_eq_ok_iff.1 accepted] at first
  contradiction

/-- The first error is at the first token that nothing could save, or at the end of tokens that
something could still complete. -/
theorem first_error_at_first_offending_token {tokens : List Token} {errors : List ParseError}
    (free : ∀ token ∈ tokens, token.kind ≠ .eof)
    (failed : (Parser.ofTokens tokens).program.1 = .error errors) :
    ∃ first others, errors = first :: others ∧
      (∀ token, first.token? = some token → ∃ front rest, tokens = front ++ [token] ++ rest ∧
        (∃ more, Accepted (front ++ more)) ∧ ∀ more, ¬ Accepted (front ++ [token] ++ more)) ∧
      ∀ expected, first = .prematureEnd expected → ∃ more, Accepted (tokens ++ more) := by
  obtain ⟨nonempty, reported⟩ := program_eq_error_iff.1 failed
  obtain ⟨first, others, rfl⟩ := List.exists_cons_of_ne_nil nonempty
  rw [readable_of_eofFree free] at reported
  have head : (everything tokens).first? = some first := by
    show (statements tokens).errors.head? = some first
    rw [reported, List.head?_cons]
  refine ⟨first, others, rfl, ?_⟩
  -- a verdict that the tokens are read leaves no first error
  cases everything_judged tokens with
  | reads used value derived step => rw [step, Step.first?_ok] at head; contradiction
  | @refuses front rest token error viable carries refused =>
    rw [refused rest, Option.some.injEq] at head
    subst head
    constructor
    · intro other same
      rw [carries, Option.some.injEq] at same
      subst same
      have upTo : EofFree (front ++ [token]) := fun other here => free other (by grind)
      have hopeless (more : List Token) : ¬ Accepted (front ++ [token] ++ more) := by
        apply not_accepted_of_first
        rw [readable_append upTo, ← List.append_cons]
        exact refused _
      exact ⟨front, rest, by simp, accepted_of_viable viable, hopeless⟩
    · intro expected premature
      rw [premature] at carries
      contradiction
  | lacks viable carries refused =>
    rw [refused, Option.some.injEq] at head
    subst head
    constructor
    · intro token same
      rw [carries] at same
      contradiction
    · intro expected premature
      exact accepted_of_viable viable

def missingAssign : List Token := [⟨.letKeyword, 0, 3⟩, ⟨.ident "x", 4, 5⟩, ⟨.int "5", 6, 7⟩]

theorem first_error_of_missing_assign :
    EofFree missingAssign ∧
      (Parser.ofTokens missingAssign).program.1 =
        .error [.unexpectedToken (.token .assign) ⟨.int "5", 6, 7⟩] ∧
      ∃ front rest, missingAssign = front ++ [⟨.int "5", 6, 7⟩] ++ rest ∧
        (∃ more, Accepted (front ++ more)) ∧
        ∀ more, ¬ Accepted (front ++ [⟨.int "5", 6, 7⟩] ++ more) := by
  have free : EofFree missingAssign := by decide
  have failed : (Parser.ofTokens missingAssign).program.1 =
      .error [.unexpectedToken (.token .assign) ⟨.int "5", 6, 7⟩] :=
    program_eq_error_iff.2 ⟨List.cons_ne_nil _ _, by decide +kernel⟩
  obtain ⟨first, others, same, atToken, -⟩ := first_error_at_first_offending_token free failed
  obtain ⟨rfl, -⟩ := List.cons.inj same
  exact ⟨free, failed, atToken _ rfl⟩

end Monkey.Parse
