import Monkey.Proofs.Token.Cut
import Monkey.Proofs.Token.Tiling

/-!
Texts joined by white space. No token reads across a blank character but a string, and a string ends
at its closing quote. So the tokens of two texts with white space between them are those of the one
text and those of the other, moved by the bytes in front of it.
-/
namespace Monkey
open Text (isBlank)
open Token (Kind Lexeme Cuts)

namespace Token

def moved (bytes : Nat) (token : Token) : Token :=
  ⟨token.kind, token.start + bytes, token.stop + bytes⟩

/-- An illegal text that begins with a quote, as a string does that is not closed. -/
def Kind.OpensString : Kind → Prop
  | .illegal text => text.toList.head? = some '"'
  | _ => False

theorem isWordChar_of_isBlank {c : Char} (blank : isBlank c = true) : isWordChar c = false := by
  cases word : isWordChar c with
  | false => rfl
  | true =>
    have bounds : 33 ≤ c.toNat ∧ c.toNat ≤ 126 := by
      rcases Bool.or_eq_true_iff.1 word with letter | digit
      · have := toNat_of_isLetter letter
        omega
      · have := toNat_of_isDigit digit
        omega
    rw [not_isBlank bounds.1 bounds.2] at blank
    contradiction

theorem takeWhile_append_of_stops {p : Char → Bool} {rest : List Char}
    (stops : ∀ c, rest.head? = some c → p c = false) (cs : List Char) :
    (cs ++ rest).takeWhile p = cs.takeWhile p ∧
      (cs ++ rest).dropWhile p = cs.dropWhile p ++ rest := by
  induction cs with
  | nil => exact @takeWhile_apart p [] rest (by simp) stops
  | cons c cs ih =>
    cases holds : p c with
    | true => simpa [holds] using ih
    | false => simp [holds]

def Blanked (rest : List Char) : Prop := ∃ c more, rest = c :: more ∧ isBlank c = true

theorem Blanked.apart {rest : List Char} (blanked : Blanked rest) : Apart rest := by
  obtain ⟨c, more, rfl, blank⟩ := blanked
  exact apart_cons (isWordChar_of_isBlank blank)

theorem Blanked.no_equals {rest : List Char} (blanked : Blanked rest) : rest.head? ≠ some '=' := by
  obtain ⟨c, more, rfl, blank⟩ := blanked
  intro head
  cases head
  contradiction

def Lexeme.followed (lexeme : Lexeme) (more : List Char) : Lexeme :=
  { lexeme with rest := lexeme.rest ++ more }

theorem ofQuote_append {cs : List Char} (closed : ¬ (Lexeme.ofQuote cs).kind.OpensString)
    (rest : List Char) : Lexeme.ofQuote (cs ++ rest) = (Lexeme.ofQuote cs).followed rest := by
  have whole := List.takeWhile_append_dropWhile (p := (· ≠ '"')) (l := cs)
  have all : ∀ c ∈ cs.takeWhile (· ≠ '"'), decide (c ≠ '"') = true :=
    List.all_eq_true.1 List.all_takeWhile
  have head := List.head?_dropWhile_not (· ≠ '"') cs
  cases dropped : cs.dropWhile (· ≠ '"') with
  | nil =>
    exfalso
    apply closed
    rw [Lexeme.ofQuote, dropped]
    simp [Kind.OpensString]
  | cons quote more =>
    rw [dropped] at whole head
    have stops : ∀ c, (quote :: (more ++ rest)).head? = some c → decide (c ≠ '"') = false := by
      intro c here
      cases here
      exact head
    have longer : cs ++ rest = cs.takeWhile (· ≠ '"') ++ quote :: (more ++ rest) := by
      rw [← List.cons_append, ← List.append_assoc, whole]
    obtain ⟨taken, left⟩ := takeWhile_apart all stops
    rw [← longer] at taken left
    simp only [Lexeme.ofQuote, taken, left, dropped, Lexeme.followed]

theorem ofSymbol_append {rest : List Char} (apart : rest.head? ≠ some '=') (c : Char)
    (cs : List Char) : Lexeme.ofSymbol c (cs ++ rest) = (Lexeme.ofSymbol c cs).followed rest := by
  by_cases head : cs.head? = some '='
  · obtain ⟨cs, rfl⟩ := List.head?_eq_some_iff.1 head
    simp only [List.cons_append, Lexeme.ofSymbol]
    repeat' split
    all_goals rfl
  · have longer : (cs ++ rest).head? ≠ some '=' := by
      cases cs with
      | nil => exact apart
      | cons d cs => exact head
    rw [ofSymbol_single fun _ => longer, ofSymbol_single fun _ => head]
    rfl

/-- White space behind a text changes no lexeme of it that is closed. -/
theorem scan_append {c : Char} {cs rest : List Char} (blanked : Blanked rest)
    (closed : ¬ (Lexeme.scan c cs).kind.OpensString) :
    Lexeme.scan c (cs ++ rest) = (Lexeme.scan c cs).followed rest := by
  have digits : ∀ d, rest.head? = some d → d.isDigit = false := by
    intro d head
    exact (Bool.or_eq_false_iff.1 (blanked.apart d head)).2
  obtain ⟨word, behindWord⟩ := takeWhile_append_of_stops blanked.apart cs
  obtain ⟨number, behindNumber⟩ := takeWhile_append_of_stops digits cs
  unfold Lexeme.scan at closed ⊢
  split
  · next quote =>
    rw [if_pos quote] at closed
    exact ofQuote_append closed rest
  split
  · rw [word, behindWord]
    rfl
  split
  · rw [number, behindNumber]
    rfl
  · exact ofSymbol_append blanked.no_equals c cs

/-- The tokens of a text do not depend on the place where it begins. -/
theorem Cuts.drain_moved {cs : List Char} {kinds : List Kind} (cuts : Cuts cs kinds)
    (position bytes : Nat) :
    (Tokenizer.drain ⟨cs, position + bytes, false⟩).1 =
      (Tokenizer.drain ⟨cs, position, false⟩).1.map (moved bytes) := by
  induction cuts generalizing position with
  | done =>
    rw [drain_nil, drain_nil]
    rfl
  | blank blank _ ih => rw [drain_blank blank, drain_blank blank, Nat.add_right_comm, ih]
  | lexeme visible _ ih =>
    rw [drain_lexeme visible, drain_lexeme visible, Nat.add_right_comm, ih]
    rfl

theorem drain_blanks {gap : List Char} (blank : ∀ c ∈ gap, isBlank c = true) (cs : List Char)
    (position : Nat) : Tokenizer.drain ⟨gap ++ cs, position, false⟩ =
      Tokenizer.drain ⟨cs, position + Text.width gap, false⟩ := by
  induction gap generalizing position with
  | nil => rfl
  | cons c gap ih =>
    obtain ⟨first, others⟩ := List.forall_mem_cons.1 blank
    rw [List.cons_append, drain_blank first, ih others, Text.width, Nat.add_assoc]

/-- A text is cut the same in front of white space, and what is behind it is cut by itself. -/
theorem Cuts.drain_append {cs : List Char} {kinds : List Kind} (cuts : Cuts cs kinds)
    (closed : ∀ kind ∈ kinds, ¬ kind.OpensString) {rest : List Char} (blanked : Blanked rest)
    (position : Nat) :
    (Tokenizer.drain ⟨cs ++ rest, position, false⟩).1 =
      (Tokenizer.drain ⟨cs, position, false⟩).1.dropLast ++
        (Tokenizer.drain ⟨rest, position + Text.width cs, false⟩).1 := by
  induction cuts generalizing position with
  | done =>
    rw [drain_nil]
    rfl
  | blank blank _ ih =>
    rw [List.cons_append, drain_blank blank, drain_blank blank, ih closed, Text.width,
      Nat.add_assoc]
  | @lexeme c cs kinds visible others ih =>
    obtain ⟨first, behind⟩ := List.forall_mem_cons.1 closed
    have size := congrArg Text.width (Lexeme.scan_text_append_rest c cs)
    rw [Text.width_append] at size
    have nonempty (place : Nat) :
        (Tokenizer.drain ⟨(Lexeme.scan c cs).rest, place, false⟩).1 ≠ [] := by
      intro noToken
      have kinds := others.drain place
      rw [noToken] at kinds
      exact absurd kinds.symm (List.append_ne_nil_of_right_ne_nil _ (List.cons_ne_nil _ _))
    rw [List.cons_append, drain_lexeme visible, drain_lexeme visible, scan_append blanked first,
      List.dropLast_cons_of_ne_nil (nonempty _), ← size, ← Nat.add_assoc, List.cons_append]
    exact congrArg (List.cons _) (ih behind _)

end Token

/-- The tokens of two texts with white space between them are those of the first, without the end
marker, and then those of the second, as many bytes further on as stand in front of it. Only a
string that the first text does not close would take in the second. -/
theorem lexing_splits_at_blanks (first gap second : String) (nonempty : gap ≠ "")
    (blank : ∀ c ∈ gap.toList, isBlank c = true)
    (closed : ∀ token ∈ lex first, ¬ token.kind.OpensString) :
    lex (first ++ gap ++ second) =
      (lex first).dropLast ++ (lex second).map (Token.moved (first ++ gap).utf8ByteSize) := by
  obtain ⟨kinds, cuts⟩ := Token.exists_cuts first.toList
  obtain ⟨_, others⟩ := Token.exists_cuts second.toList
  have closedKinds : ∀ kind ∈ kinds, ¬ kind.OpensString := by
    intro kind here
    have member : kind ∈ (lex first).map Token.kind := by
      rw [lex, Tokenizer.ofSource, cuts.drain 0]
      exact List.mem_append_left _ here
    obtain ⟨token, found, rfl⟩ := List.mem_map.1 member
    exact closed token found
  have blanked : Token.Blanked (gap.toList ++ second.toList) := by
    obtain ⟨c, more, split⟩ := List.exists_cons_of_ne_nil (mt String.toList_eq_nil_iff.1 nonempty)
    exact ⟨c, more ++ second.toList, by rw [split, List.cons_append], blank c (by simp [split])⟩
  have size : (first ++ gap).utf8ByteSize = Text.width first.toList + Text.width gap.toList := by
    rw [Text.utf8ByteSize_eq_width, String.toList_append, Text.width_append]
  calc lex (first ++ gap ++ second)
      = (Tokenizer.drain ⟨first.toList ++ (gap.toList ++ second.toList), 0, false⟩).1 := by
        rw [lex, Tokenizer.ofSource, String.toList_append, String.toList_append, List.append_assoc]
    _ = (lex first).dropLast ++ (Tokenizer.drain
          ⟨gap.toList ++ second.toList, 0 + Text.width first.toList, false⟩).1 :=
        cuts.drain_append closedKinds blanked 0
    _ = (lex first).dropLast ++
          (Tokenizer.drain ⟨second.toList, 0 + (first ++ gap).utf8ByteSize, false⟩).1 := by
        rw [Token.drain_blanks blank, size, Nat.add_assoc]
    _ = _ := by rw [others.drain_moved]; rfl

theorem wideSpace_splits :
    "\u3000" ≠ "" ∧ (∀ c ∈ "\u3000".toList, isBlank c = true) ∧
      (∀ token ∈ lex "é \"b\"", ¬ token.kind.OpensString) ∧
      lex ("é \"b\"" ++ "\u3000" ++ "= x") =
        (lex "é \"b\"").dropLast ++ (lex "= x").map (Token.moved 9) := by
  have nonempty : "\u3000" ≠ "" := by decide
  have blank : ∀ c ∈ "\u3000".toList, isBlank c = true := List.all_eq_true.1 (by decide)
  have cut : lex "é \"b\"" = [⟨.illegal "é", 0, 2⟩, ⟨.string "b", 3, 6⟩, ⟨.eof, 6, 6⟩] := by
    decide +kernel
  have closed : ∀ token ∈ lex "é \"b\"", ¬ token.kind.OpensString := by
    rw [cut]
    simp [Token.Kind.OpensString]
  exact ⟨nonempty, blank, closed, lexing_splits_at_blanks _ _ _ nonempty blank closed⟩

end Monkey
