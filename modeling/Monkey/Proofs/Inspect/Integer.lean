import Monkey.Eval.Entry
import Monkey.Object.Inspect
import Monkey.Proofs.Numeral
import Monkey.Proofs.Parse.Acceptance
import Monkey.Proofs.Token.Tiling

/-!
Integers from text to value. Digits, with or without a sign in front of them, are a program that
gives the number they stand for, however many they are and whatever zeros they begin with. Beyond 63
bits they are no program, whatever the sign. So the text that an integer shows gives that integer
again, but for the smallest one, whose digits alone stand for a number too large.
-/
namespace Monkey
open Supply

namespace Token

theorem drain_digits {digits : List Char} (nonempty : digits ≠ [])
    (all : ∀ d ∈ digits, d.isDigit = true) (position : Nat) :
    (Tokenizer.drain ⟨digits, position, false⟩).1 =
      [⟨.int (String.ofList digits), position, position + Text.width digits⟩,
       ⟨.eof, position + Text.width digits, position + Text.width digits⟩] := by
  obtain ⟨c, cs, rfl⟩ := List.exists_cons_of_ne_nil nonempty
  have bounds := toNat_of_isDigit (all c List.mem_cons_self)
  have visible : Text.isBlank c = false := not_isBlank (by omega) (by omega)
  have scan := scan_digits all apart_nil
  rw [List.append_nil] at scan
  rw [drain_lexeme visible, scan, drain_nil]

theorem drain_minus (cs : List Char) (position : Nat) :
    (Tokenizer.drain ⟨'-' :: cs, position, false⟩).1 =
      ⟨.minus, position, position + 1⟩ :: (Tokenizer.drain ⟨cs, position + 1, false⟩).1 := by
  have scan : Lexeme.scan '-' cs = ⟨.minus, ['-'], cs⟩ :=
    (scan_symbol (by decide) (by decide) cs).trans (ofSymbol_single (by simp))
  rw [drain_lexeme (by decide), scan]
  rfl

end Token

namespace Parse

theorem expression_numeral {token : Token} {text : String} (kind : token.kind = .int text)
    (level : Level) : expression level [token] =
      ⟨((Numeral.read text).map .int).mapError (.invalidInteger token), [], []⟩ := by
  rw [expression_cons, operand_eq]
  simp only [kind]
  cases Numeral.read text with
  | ok value => rw [Step.andThen_ok, climb_nil]; rfl
  | error fault => rfl

theorem expression_unary {token : Token} {op : UnaryOp} (kind : token.kind = op.kind)
    {operand : List Token} {result : Except ParseError Expr}
    (reads : expression .unary operand = ⟨result, [], []⟩) (level : Level) :
    expression level (token :: operand) = ⟨result.map (.unary op), [], []⟩ := by
  rw [expression_cons, operand_unary kind, reads]
  cases result with
  | ok e => exact climb_nil level _
  | error error => rfl

end Parse

open Parse

/-- An expression that takes in all tokens, or fails at the last one, is all there is to read. -/
theorem parse_of_expression {source : String} {tokens : List Token} {place : Nat}
    {result : Except ParseError Expr} (cut : lex source = tokens ++ [⟨.eof, place, place⟩])
    (free : EofFree tokens) (nonempty : tokens ≠ []) (plain : ¬ FacesKeyword tokens)
    (reads : expression .lowest tokens = ⟨result, [], []⟩) :
    parse source = (result.map fun e => [.exprStmt e]).mapError fun error => [error] := by
  have readable : (Parser.ofTokens (lex source)).readable = tokens := by
    rw [cut, readable_append free]
    exact List.append_nil tokens
  have step := statement_eq_expression plain
  rw [reads] at step
  rw [parse_eq]
  cases result with
  | ok e =>
    refine program_eq_ok_iff.2 ?_
    rw [readable, statements_of_ok (peek?_ne_none nonempty) step]
    exact congrArg (Reading.addStatement _ _) statements_nil
  | error error =>
    have resumed : resumeAtTop error [] = [] :=
      List.length_eq_zero_iff.1 (Nat.le_zero.1 (resumeAtTop_length_le error []))
    refine program_eq_error_iff.2 ⟨List.cons_ne_nil _ _, ?_⟩
    rw [readable, statements_of_error (peek?_ne_none nonempty) step, resumed, statements_nil]
    rfl

/-- The source reads as a program that gives the integer, wherever and however deep it is run. -/
def GivesInteger (source : String) (n : Int) : Prop :=
  ∃ program, parse source = .ok program ∧ ∀ depth scope store, ∃ id value,
    (Eval.program depth scope program store).1 = some (.integer id value) ∧ value.toInt = n

section Digits

open Numeral (decimal)

variable {text : String} (nonempty : text.toList ≠ []) (all : ∀ c ∈ text.toList, c.isDigit = true)
include nonempty all

theorem lex_digits : lex text =
    [⟨.int text, 0, text.utf8ByteSize⟩] ++ [⟨.eof, text.utf8ByteSize, text.utf8ByteSize⟩] := by
  have drained := Token.drain_digits nonempty all 0
  rw [String.ofList_toList, Nat.zero_add, ← Text.utf8ByteSize_eq_width] at drained
  exact drained

theorem lex_minus_digits : lex ("-" ++ text) =
    [⟨.minus, 0, 1⟩, ⟨.int text, 1, 1 + text.utf8ByteSize⟩] ++
      [⟨.eof, 1 + text.utf8ByteSize, 1 + text.utf8ByteSize⟩] := by
  have drained := Token.drain_digits nonempty all 1
  rw [String.ofList_toList, ← Text.utf8ByteSize_eq_width] at drained
  rw [lex, Tokenizer.ofSource, String.toList_append]
  exact (Token.drain_minus text.toList 0).trans (congrArg _ drained)

theorem parse_digits : parse text =
    ((Numeral.read text).map fun value => [.exprStmt (.int value)]).mapError fun fault =>
      [.invalidInteger ⟨.int text, 0, text.utf8ByteSize⟩ fault] := by
  let digits : Token := ⟨.int text, 0, text.utf8ByteSize⟩
  have reads : expression .lowest [digits] = _ := expression_numeral rfl .lowest
  rw [parse_of_expression (lex_digits nonempty all) (by simp [EofFree]) (by simp)
    (by simp [faces_cons]) reads]
  cases Numeral.read text <;> rfl

theorem parse_minus_digits : parse ("-" ++ text) =
    ((Numeral.read text).map fun value => [.exprStmt (.unary .minus (.int value))]).mapError
      fun fault => [.invalidInteger ⟨.int text, 1, 1 + text.utf8ByteSize⟩ fault] := by
  let minus : Token := ⟨.minus, 0, 1⟩
  let digits : Token := ⟨.int text, 1, 1 + text.utf8ByteSize⟩
  have sign : minus.kind = UnaryOp.minus.kind := rfl
  have operand : expression .unary [digits] = _ := expression_numeral rfl .unary
  rw [parse_of_expression (lex_minus_digits nonempty all) (by simp [EofFree]) (by simp)
    (by simp [faces_cons]) (expression_unary sign operand .lowest)]
  cases Numeral.read text <;> rfl

theorem digits_give (fits : decimal text ≤ 0x7FFFFFFFFFFFFFFF) :
    GivesInteger text (decimal text) := by
  refine ⟨[.exprStmt (.int (Int64.ofNat (decimal text)))], ?_, fun depth scope store => ?_⟩
  · rw [parse_digits nonempty all, Numeral.read_of_le nonempty all fits]
    rfl
  · exact ⟨store.nextId, _, rfl, Int64.toInt_ofNat_of_lt (by omega)⟩

theorem minus_digits_give (fits : decimal text ≤ 0x7FFFFFFFFFFFFFFF) :
    GivesInteger ("-" ++ text) (-decimal text) := by
  have value : (Int64.ofNat (decimal text)).toInt = decimal text :=
    Int64.toInt_ofNat_of_lt (by omega)
  refine ⟨[.exprStmt (.unary .minus (.int (Int64.ofNat (decimal text))))], ?_,
    fun depth scope store => ?_⟩
  · rw [parse_minus_digits nonempty all, Numeral.read_of_le nonempty all fits]
    rfl
  · refine ⟨store.nextId + 1, _, rfl, ?_⟩
    rw [Int64.toInt_neg, value]
    exact Int.bmod_eq_of_le (by omega) (by omega)

theorem digits_refused (exceeds : 0x7FFFFFFFFFFFFFFF < decimal text) :
    parse text = .error [.invalidInteger ⟨.int text, 0, text.utf8ByteSize⟩ .tooLarge] := by
  rw [parse_digits nonempty all, Numeral.read_of_gt nonempty all exceeds]
  rfl

theorem minus_digits_refused (exceeds : 0x7FFFFFFFFFFFFFFF < decimal text) : parse ("-" ++ text) =
    .error [.invalidInteger ⟨.int text, 1, 1 + text.utf8ByteSize⟩ .tooLarge] := by
  rw [parse_minus_digits nonempty all, Numeral.read_of_gt nonempty all exceeds]
  rfl

end Digits

theorem shown_integer_gives_it {value : Int64} (other : value ≠ Int64.minValue) (id : ObjectId) :
    GivesInteger (Object.integer id value).inspect value.toInt := by
  obtain ⟨nonempty, all⟩ := Numeral.repr_digits value.toInt.natAbs
  have low := value.le_toInt
  have high := value.toInt_lt
  have apart : value.toInt ≠ -0x8000000000000000 := fun same => other (Int64.toInt_inj.1 same)
  have fits : Numeral.decimal (Nat.repr value.toInt.natAbs) ≤ 0x7FFFFFFFFFFFFFFF := by
    rw [Numeral.decimal_repr]
    omega
  rw [Object.inspect]
  by_cases neg : value.toInt < 0
  · have gives := minus_digits_give nonempty all fits
    have same : -(value.toInt.natAbs : Int) = value.toInt := by omega
    rw [Numeral.decimal_repr, same] at gives
    rwa [Numeral.write_of_neg neg]
  · have nonneg := Int.not_lt.1 neg
    have gives := digits_give nonempty all fits
    rw [Numeral.decimal_repr, Int.natAbs_of_nonneg nonneg] at gives
    rwa [Numeral.write_of_nonneg nonneg]

theorem shown_smallest_refused (id : ObjectId) : parse (Object.integer id Int64.minValue).inspect =
    .error [.invalidInteger ⟨.int "9223372036854775808", 1, 20⟩ .tooLarge] := by
  have all : "9223372036854775808".toList.all Char.isDigit = true := by decide +kernel
  have exceeds : 0x7FFFFFFFFFFFFFFF < Numeral.decimal "9223372036854775808" := by decide +kernel
  exact minus_digits_refused (by decide) (List.all_eq_true.1 all) exceeds

/-- A text of digits means the number it stands for, and so does its negation, as long as the number
has no more than 63 bits. Otherwise the digits are the one fault of either text. Whatever an integer
shows means that integer, but for the smallest one, which shows a text that is refused. -/
theorem digits_mean_their_number :
    (∀ text : String, text ≠ "" → (∀ c ∈ text.toList, c.isDigit = true) →
      (Numeral.decimal text ≤ 0x7FFFFFFFFFFFFFFF →
        GivesInteger text (Numeral.decimal text) ∧
        GivesInteger ("-" ++ text) (-Numeral.decimal text)) ∧
      (0x7FFFFFFFFFFFFFFF < Numeral.decimal text →
        parse text = .error [.invalidInteger ⟨.int text, 0, text.utf8ByteSize⟩ .tooLarge] ∧
        parse ("-" ++ text) =
          .error [.invalidInteger ⟨.int text, 1, 1 + text.utf8ByteSize⟩ .tooLarge])) ∧
    (∀ id value, value ≠ Int64.minValue →
      GivesInteger (Object.integer id value).inspect value.toInt) ∧
    ∀ id, parse (Object.integer id Int64.minValue).inspect =
      .error [.invalidInteger ⟨.int "9223372036854775808", 1, 20⟩ .tooLarge] := by
  refine ⟨fun text present all => ?_, fun id value other => shown_integer_gives_it other id,
    shown_smallest_refused⟩
  have nonempty := mt String.toList_eq_nil_iff.1 present
  constructor
  · intro fits
    exact ⟨digits_give nonempty all fits, minus_digits_give nonempty all fits⟩
  · intro exceeds
    exact ⟨digits_refused nonempty all exceeds, minus_digits_refused nonempty all exceeds⟩

theorem leading_zeros_and_smallest_negated :
    GivesInteger "007" 7 ∧ GivesInteger "-007" (-7) ∧
    parse "9223372036854775808" =
      .error [.invalidInteger ⟨.int "9223372036854775808", 0, 19⟩ .tooLarge] ∧
    GivesInteger (Object.integer 0 (-9223372036854775807)).inspect (-9223372036854775807) := by
  obtain ⟨means, shown, -⟩ := digits_mean_their_number
  have seven : "007".toList.all Char.isDigit = true := by decide +kernel
  have many : "9223372036854775808".toList.all Char.isDigit = true := by decide +kernel
  have beyond : 0x7FFFFFFFFFFFFFFF < Numeral.decimal "9223372036854775808" := by decide +kernel
  obtain ⟨gives, negated⟩ := (means "007" (by decide) (List.all_eq_true.1 seven)).1 (by decide)
  obtain ⟨refused, -⟩ :=
    (means "9223372036854775808" (by decide) (List.all_eq_true.1 many)).2 beyond
  exact ⟨gives, negated, refused, shown 0 (-9223372036854775807) (by decide)⟩

end Monkey
