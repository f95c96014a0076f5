import Monkey.Proofs.Parse.Derivation
import Monkey.Proofs.Parse.Readable
import Monkey.Proofs.Parse.Recognition

/-!
What a parser accepts. A run without errors is a derivation of the tokens in front of the end mark,
and the program it gives is the only one that they derive.
-/
namespace Monkey.Parse
open Grammar
open Token (Kind)

theorem program_eq_ok_iff {tokens : List Token} {program : Program} :
    (Parser.ofTokens tokens).program.1 = .ok program ↔
      statements (Parser.ofTokens tokens).readable = ⟨program, [], []⟩ := by
  have left := statements_rest (Parser.ofTokens tokens).readable
  obtain ⟨same, errors, -⟩ := statements_alike (Parser.ofTokens tokens)
  rw [Parser.program, same, errors]
  generalize statements (Parser.ofTokens tokens).readable = reading at left
  obtain ⟨code, errors, rest⟩ := reading
  obtain rfl : rest = [] := left
  cases errors <;> simp [Parser.ofTokens]

theorem program_eq_error_iff {tokens : List Token} {errors : List ParseError} :
    (Parser.ofTokens tokens).program.1 = .error errors ↔
      errors ≠ [] ∧ (statements (Parser.ofTokens tokens).readable).errors = errors := by
  obtain ⟨same, errors', -⟩ := statements_alike (Parser.ofTokens tokens)
  rw [Parser.program, same, errors']
  generalize statements (Parser.ofTokens tokens).readable = reading
  obtain ⟨code, errors', rest⟩ := reading
  cases errors' with
  | nil => simp +contextual [Parser.ofTokens, eq_comm]
  | cons first others =>
    simp only [Parser.ofTokens, List.nil_append, Except.error.injEq]
    constructor
    · rintro rfl
      exact ⟨List.cons_ne_nil _ _, rfl⟩
    · exact And.right

theorem parse_eq_ok_iff_reading {source : String} {program : Program} :
    parse source = .ok program ↔
      statements (Parser.ofTokens (lex source)).readable = ⟨program, [], []⟩ := by
  rw [parse_eq]
  exact program_eq_ok_iff

theorem statements_eq_iff {tokens : List Token} {code : List Stmt} :
    statements tokens = ⟨code, [], []⟩ ↔ Statements (tokens.map Token.kind) code := by
  constructor
  · intro clean
    have step : everything tokens = .ok code [] := by rw [everything, clean]; rfl
    have faultless : (everything tokens).first? = none := by rw [step, Step.first?_ok]
    cases everything_judged tokens with
    | @reads used rest value derived result =>
      rw [step] at result
      cases result
      obtain ⟨us, whole, derived⟩ := derived
      rw [List.append_nil] at whole ⊢
      rwa [whole]
    | refuses front error viable carries first => rw [first] at faultless; contradiction
    | lacks viable carries first => rw [first] at faultless; contradiction
  · intro derived
    exact derived.recognized rfl

/-- A parser accepts what the grammar derives and nothing else, and gives the derived program. -/
theorem program_accepts_exactly_the_derived (tokens : List Token) :
    (∀ program, (Parser.ofTokens tokens).program.1 = .ok program ↔
      Statements ((tokens.takeWhile (·.kind ≠ .eof)).map Token.kind) program) ∧
    ∀ program other, Statements ((tokens.takeWhile (·.kind ≠ .eof)).map Token.kind) program →
      Statements ((tokens.takeWhile (·.kind ≠ .eof)).map Token.kind) other → program = other :=
  ⟨fun _ => program_eq_ok_iff.trans statements_eq_iff, fun _ _ => Statements.unique⟩

end Monkey.Parse
