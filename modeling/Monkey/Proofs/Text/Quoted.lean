import Monkey.Text.Quoted

/-!
Quoting loses nothing. What is quoted takes no more than one line, and it can be told from the
quoted text what the text was, whatever quotes, backslashes and escapes it holds itself.
-/
namespace Monkey.Text

theorem cut_unique {c : Char} {us us' vs vs' : List Char} (free : c ∉ us) (free' : c ∉ us')
    (same : us ++ c :: vs = us' ++ c :: vs') : us = us' ∧ vs = vs' := by
  induction us generalizing us' with
  | nil =>
    cases us' with
    | nil => exact ⟨rfl, (List.cons.inj same).2⟩
    | cons d us' => exact absurd ((List.cons.inj same).1 ▸ List.mem_cons_self) free'
  | cons d us ih =>
    cases us' with
    | nil => exact absurd ((List.cons.inj same).1 ▸ List.mem_cons_self) free
    | cons d' us' =>
      obtain ⟨rfl, behind⟩ := List.cons.inj same
      rw [List.mem_cons, not_or] at free free'
      obtain ⟨rfl, others⟩ := ih free.2 free'.2 behind
      exact ⟨rfl, others⟩

def hexadecimal (digits : List Char) : Nat :=
  digits.foldl (fun value c =>
    16 * value + if c.isDigit then c.toNat - '0'.toNat else c.toNat - 'a'.toNat + 10) 0

theorem hexadecimal_toDigits (n : Nat) : hexadecimal (Nat.toDigits 16 n) = n := by
  have digit : ∀ d < 16, hexadecimal [Nat.digitChar d] = d := by decide
  induction n using Nat.strongRecOn with
  | ind n ih =>
    rw [Nat.toDigits_eq_if (by decide)]
    split
    · next small => exact digit n small
    · have last := digit (n % 16) (Nat.mod_lt n (by decide))
      have front := ih (n / 16) (by omega)
      simp only [hexadecimal, List.foldl_append, List.foldl_cons, List.foldl_nil, Nat.mul_zero,
        Nat.zero_add] at last front ⊢
      rw [front, last]
      omega

theorem exists_digit_of_mem_toDigits {n : Nat} {c : Char} (here : c ∈ Nat.toDigits 16 n) :
    ∃ d < 16, c = Nat.digitChar d := by
  induction n using Nat.strongRecOn with
  | ind n ih =>
    rw [Nat.toDigits_eq_if (by decide)] at here
    split at here
    · next small => exact ⟨n, small, List.mem_singleton.1 here⟩
    · rcases List.mem_append.1 here with front | last
      · exact ih (n / 16) (by omega) front
      · exact ⟨n % 16, Nat.mod_lt n (by decide), List.mem_singleton.1 last⟩

theorem toDigits_free (n : Nat) : '}' ∉ Nat.toDigits 16 n ∧ '\n' ∉ Nat.toDigits 16 n := by
  have all : ∀ d < 16, '}' ≠ Nat.digitChar d ∧ '\n' ≠ Nat.digitChar d := by decide
  constructor
  · intro here
    obtain ⟨d, small, same⟩ := exists_digit_of_mem_toDigits here
    exact (all d small).1 same
  · intro here
    obtain ⟨d, small, same⟩ := exists_digit_of_mem_toDigits here
    exact (all d small).2 same

def letterEscapes : List (Char × Char) :=
  [('"', '"'), ('\\', '\\'), ('\n', 'n'), ('\r', 'r'), ('\t', 't'), ('\x00', '0')]

inductive Quotes (c : Char) : List Char → Prop
  | plain (quote : c ≠ '"') (backslash : c ≠ '\\') (line : c ≠ '\n') : Quotes c [c]
  | letter {letter : Char} (listed : (c, letter) ∈ letterEscapes) : Quotes c ['\\', letter]
  | code : Quotes c (codeEscape c)

theorem quotes_quotedChar (c : Char) : Quotes c (quotedChar c) := by
  unfold quotedChar
  iterate 6
    split
    · next same => exact .letter (by simp [same, letterEscapes])
  split
  · next quote backslash line _ _ _ _ => exact .plain quote backslash line
  · exact .code

theorem letterEscapes_free : ∀ pair ∈ letterEscapes, pair.2 ≠ 'u' ∧ pair.2 ≠ '\n' := by decide

theorem letterEscapes_unique : ∀ one ∈ letterEscapes, ∀ other ∈ letterEscapes,
    one.2 = other.2 → one.1 = other.1 := by decide

theorem Quotes.newline_notMem {c : Char} {us : List Char} (quotes : Quotes c us) : '\n' ∉ us := by
  cases quotes with
  | plain quote backslash line => simpa using line.symm
  | letter listed => simpa using (letterEscapes_free _ listed).2.symm
  | code => simp [codeEscape, (toDigits_free c.toNat).2]

theorem Quotes.ne_quote {c d : Char} {us vs rest : List Char} (quotes : Quotes c us)
    (same : us ++ rest = d :: vs) : d ≠ '"' := by
  cases quotes with
  | plain quote backslash line => exact (List.cons.inj same).1 ▸ quote
  | letter | code => exact (List.cons.inj same).1 ▸ by decide

theorem codeEscape_append (c : Char) (rest : List Char) :
    codeEscape c ++ rest = '\\' :: 'u' :: '{' :: (Nat.toDigits 16 c.toNat ++ '}' :: rest) := by
  simp [codeEscape]

theorem codeEscape_unique {c c' : Char} {rest rest' : List Char}
    (same : codeEscape c ++ rest = codeEscape c' ++ rest') : c = c' ∧ rest = rest' := by
  simp only [codeEscape_append, List.cons.injEq, true_and] at same
  obtain ⟨digits, behind⟩ := cut_unique (toDigits_free _).1 (toDigits_free _).1 same
  have number := congrArg hexadecimal digits
  rw [hexadecimal_toDigits, hexadecimal_toDigits] at number
  exact ⟨Char.toNat_inj.1 number, behind⟩

/-- Quoted characters are told from one another, and from what stands behind them. -/
theorem Quotes.unique {c c' : Char} {us us' rest rest' : List Char} (quotes : Quotes c us)
    (quotes' : Quotes c' us') (same : us ++ rest = us' ++ rest') : c = c' ∧ rest = rest' := by
  -- a backslash in front tells that the character is escaped, and what stands behind it tells how
  cases quotes with
  | plain quote backslash line =>
    cases quotes' with
    | plain => exact List.cons.inj same
    | letter | code => exact absurd (List.cons.inj same).1 backslash
  | @letter letter listed =>
    cases quotes' with
    | plain quote backslash line => exact absurd (List.cons.inj same).1.symm backslash
    | @letter letter' listed' =>
      obtain ⟨alike, behind⟩ := List.cons.inj (List.cons.inj same).2
      exact ⟨letterEscapes_unique _ listed _ listed' alike, behind⟩
    | code => exact absurd (List.cons.inj (List.cons.inj same).2).1 (letterEscapes_free _ listed).1
  | code =>
    cases quotes' with
    | plain quote backslash line => exact absurd (List.cons.inj same).1.symm backslash
    | letter listed =>
      exact absurd (List.cons.inj (List.cons.inj same).2).1.symm (letterEscapes_free _ listed).1
    | code => exact codeEscape_unique same

theorem flatMap_quotedChar_unique {cs ds rest rest' : List Char}
    (same : cs.flatMap quotedChar ++ '"' :: rest = ds.flatMap quotedChar ++ '"' :: rest') :
    cs = ds := by
  induction cs generalizing ds with
  | nil =>
    cases ds with
    | nil => rfl
    | cons d ds =>
      rw [List.flatMap_cons, List.append_assoc] at same
      exact absurd rfl ((quotes_quotedChar d).ne_quote same.symm)
  | cons c cs ih =>
    rw [List.flatMap_cons, List.append_assoc] at same
    cases ds with
    | nil => exact absurd rfl ((quotes_quotedChar c).ne_quote same)
    | cons d ds =>
      rw [List.flatMap_cons, List.append_assoc] at same
      obtain ⟨rfl, behind⟩ := (quotes_quotedChar c).unique (quotes_quotedChar d) same
      rw [ih behind]

theorem quoted_injective {one other : String} (same : quoted one = quoted other) : one = other := by
  have chars := String.ofList_injective same
  simp only [quotedChars, List.cons_append, List.cons.injEq, true_and] at chars
  exact String.toList_injective (flatMap_quotedChar_unique chars)

theorem newline_notMem_quoted (text : String) : '\n' ∉ (quoted text).toList := by
  rw [quoted, String.toList_ofList, quotedChars]
  have inside : '\n' ∉ text.toList.flatMap quotedChar := by
    intro here
    obtain ⟨c, -, here⟩ := List.mem_flatMap.1 here
    exact (quotes_quotedChar c).newline_notMem here
  simp [inside]

end Monkey.Text
