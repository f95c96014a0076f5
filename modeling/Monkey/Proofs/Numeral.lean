import Monkey.Numeral

/-!
Numerals without a sign. They read as the number that their digits stand for, if it is one of 63
bits, and so what is written for a number that is not negative reads as it.
-/
namespace Monkey.Numeral

def decimal (text : String) : Nat := Nat.ofDigitChars 10 text.toList 0

theorem le_ofDigitChars (digits : List Char) (value : Nat) :
    value ≤ Nat.ofDigitChars 10 digits value := by
  rw [Nat.ofDigitChars_eq_ofDigitChars_zero]
  have positive : 0 < 10 ^ digits.length := Nat.pow_pos (by decide)
  have le := Nat.le_mul_of_pos_left value positive
  omega

theorem magnitude_of_digits {bound : Nat} {beyond : Fault} {digits : List Char} {value : Nat}
    (all : ∀ c ∈ digits, c.isDigit = true) (le : Nat.ofDigitChars 10 digits value ≤ bound) :
    magnitude bound beyond value digits = .ok (Nat.ofDigitChars 10 digits value) := by
  induction digits generalizing value with
  | nil => rw [magnitude, Nat.ofDigitChars_nil]
  | cons c digits ih =>
    rw [Nat.ofDigitChars_cons] at le ⊢
    have within : 10 * value + digitValue c ≤ bound := Nat.le_trans (le_ofDigitChars digits _) le
    have digit := all c List.mem_cons_self
    simp only [magnitude, digit, if_true, within]
    exact ih (fun d here => all d (List.mem_cons_of_mem c here)) le

theorem magnitude_of_digits_beyond {bound : Nat} {beyond : Fault} {digits : List Char} {value : Nat}
    (all : ∀ c ∈ digits, c.isDigit = true) (start : value ≤ bound)
    (exceeds : bound < Nat.ofDigitChars 10 digits value) :
    magnitude bound beyond value digits = .error beyond := by
  induction digits generalizing value with
  | nil =>
    rw [Nat.ofDigitChars_nil] at exceeds
    omega
  | cons c digits ih =>
    rw [Nat.ofDigitChars_cons] at exceeds
    have digit := all c List.mem_cons_self
    have others := fun d here => all d (List.mem_cons_of_mem c here)
    by_cases within : 10 * value + digitValue c ≤ bound
    · simp only [magnitude, digit, if_true, within]
      exact ih others within exceeds
    · simp only [magnitude, digit, if_true, within, if_false]

theorem readChars_of_digits {digits : List Char} (nonempty : digits ≠ [])
    (all : ∀ c ∈ digits, c.isDigit = true) : readChars digits = readUnsigned digits := by
  obtain ⟨c, cs, rfl⟩ := List.exists_cons_of_ne_nil nonempty
  have digit := all c List.mem_cons_self
  have plus : c ≠ '+' := by
    rintro rfl
    contradiction
  have minus : c ≠ '-' := by
    rintro rfl
    contradiction
  unfold readChars
  split <;> simp_all

theorem read_of_le {text : String} (nonempty : text.toList ≠ [])
    (all : ∀ c ∈ text.toList, c.isDigit = true) (fits : decimal text ≤ 0x7FFFFFFFFFFFFFFF) :
    read text = .ok (Int64.ofNat (decimal text)) := by
  rw [read, readChars_of_digits nonempty all, readUnsigned, magnitude_of_digits all fits]
  rfl

theorem read_of_gt {text : String} (nonempty : text.toList ≠ [])
    (all : ∀ c ∈ text.toList, c.isDigit = true) (exceeds : 0x7FFFFFFFFFFFFFFF < decimal text) :
    read text = .error .tooLarge := by
  rw [read, readChars_of_digits nonempty all, readUnsigned,
    magnitude_of_digits_beyond all (Nat.zero_le _) exceeds]
  rfl

theorem nonneg_of_digits {text : String} {value : Int64} (nonempty : text.toList ≠ [])
    (all : ∀ c ∈ text.toList, c.isDigit = true) (denotes : read text = .ok value) :
    0 ≤ value.toInt := by
  by_cases fits : decimal text ≤ 0x7FFFFFFFFFFFFFFF
  · rw [read_of_le nonempty all fits] at denotes
    cases denotes
    rw [Int64.toInt_ofNat_of_lt (by omega)]
    exact Int.natCast_nonneg _
  · rw [read_of_gt nonempty all (Nat.lt_of_not_le fits)] at denotes
    contradiction

theorem write_of_nonneg {value : Int64} (nonneg : 0 ≤ value.toInt) :
    write value = Nat.repr value.toInt.natAbs := if_neg (Int.not_lt.2 nonneg)

theorem write_of_neg {value : Int64} (neg : value.toInt < 0) :
    write value = "-" ++ Nat.repr value.toInt.natAbs := if_pos neg

theorem repr_digits (n : Nat) : (Nat.repr n).toList ≠ [] ∧
    ∀ c ∈ (Nat.repr n).toList, c.isDigit = true := by
  rw [Nat.toList_repr]
  constructor
  · exact Nat.toDigits_ne_nil
  · intro c here
    exact Nat.isDigit_of_mem_toDigits (by decide) (by decide) here

theorem decimal_repr (n : Nat) : decimal (Nat.repr n) = n := by
  rw [decimal, Nat.toList_repr, Nat.ofDigitChars_ten_toDigits]

theorem repr_injective {m n : Nat} (same : Nat.repr m = Nat.repr n) : m = n := by
  rw [← decimal_repr m, same, decimal_repr]

theorem write_digits {value : Int64} (nonneg : 0 ≤ value.toInt) :
    (write value).toList ≠ [] ∧ ∀ c ∈ (write value).toList, c.isDigit = true := by
  rw [write_of_nonneg nonneg]
  exact repr_digits _

theorem read_write {value : Int64} (nonneg : 0 ≤ value.toInt) : read (write value) = .ok value := by
  obtain ⟨nonempty, all⟩ := write_digits nonneg
  have stands : decimal (write value) = value.toInt.natAbs := by
    rw [write_of_nonneg nonneg, decimal_repr]
  have back : Int64.ofNat value.toInt.natAbs = value := by
    rw [← Int64.ofInt_eq_ofNat, Int.natAbs_of_nonneg nonneg, Int64.ofInt_toInt]
  rw [read_of_le nonempty all, stands, back]
  rw [stands]
  have lt := value.toInt_lt
  omega

end Monkey.Numeral
