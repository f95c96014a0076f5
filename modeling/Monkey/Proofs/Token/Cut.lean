import Monkey.Token.Tokenizer

/-!
How a text is cut into kinds of token, places left aside. Every text is cut in one way; the lemmas
here say which, lexeme by lexeme, given what stands behind the lexeme.
-/
namespace Monkey.Token
open Text (isBlank)

/-- The kinds of the tokens that the characters are made of. -/
inductive Cuts : List Char → List Kind → Prop
  | done : Cuts [] []
  | blank {c : Char} {cs : List Char} {kinds : List Kind} (blank : isBlank c = true)
      (others : Cuts cs kinds) : Cuts (c :: cs) kinds
  | lexeme {c : Char} {cs : List Char} {kinds : List Kind} (visible : isBlank c = false)
      (others : Cuts (Lexeme.scan c cs).rest kinds) :
      Cuts (c :: cs) ((Lexeme.scan c cs).kind :: kinds)

theorem exists_cuts (cs : List Char) : ∃ kinds, Cuts cs kinds := by
  induction size : cs.length using Nat.strongRecOn generalizing cs with
  | ind n ih =>
    cases cs with
    | nil => exact ⟨[], .done⟩
    | cons c cs =>
      rw [List.length_cons] at size
      cases visible : isBlank c with
      | true =>
        obtain ⟨kinds, others⟩ := ih cs.length (by omega) cs rfl
        exact ⟨kinds, .blank visible others⟩
      | false =>
        have shorter := Lexeme.scan_rest_length_le c cs
        obtain ⟨kinds, others⟩ := ih _ (by omega) (Lexeme.scan c cs).rest rfl
        exact ⟨_, .lexeme visible others⟩

structure IsName (name : String) : Prop where
  nonempty : ∃ c cs, name.toList = c :: cs ∧ isLetter c = true ∧ ∀ d ∈ cs, isWordChar d = true
  free : keywords.lookup name = none

def Kind.Lexed : Kind → Prop
  | .ident name => IsName name
  | .int digits => digits.toList ≠ [] ∧ ∀ c ∈ digits.toList, c.isDigit = true
  | .string contents => '"' ∉ contents.toList
  | .eof => False
  | _ => True

theorem ofWord_lexed {c : Char} {cs : List Char} (first : isLetter c = true)
    (others : ∀ d ∈ cs, isWordChar d = true) : (Kind.ofWord (String.ofList (c :: cs))).Lexed := by
  cases found : keywords.lookup (String.ofList (c :: cs)) with
  | none =>
    rw [Kind.ofWord, found]
    exact ⟨⟨c, cs, String.toList_ofList, first, others⟩, found⟩
  | some kind =>
    rw [Kind.ofWord, found]
    simp only [keywords, List.lookup_cons] at found
    repeat' split at found
    all_goals first
      | contradiction
      | cases found; trivial

theorem ofSymbol_lexed (c : Char) : (Kind.ofSymbol c).Lexed := by
  unfold Kind.ofSymbol
  split <;> trivial

theorem scan_lexed (c : Char) (cs : List Char) : (Lexeme.scan c cs).kind.Lexed := by
  unfold Lexeme.scan
  split
  · unfold Lexeme.ofQuote
    split
    · trivial
    · show '"' ∉ (String.ofList _).toList
      rw [String.toList_ofList]
      intro here
      have other := List.all_eq_true.1 List.all_takeWhile _ here
      simp at other
  split
  · next letter => exact ofWord_lexed letter (List.all_eq_true.1 List.all_takeWhile)
  split
  · next digit =>
    constructor
    · simp
    · rw [String.toList_ofList]
      intro d here
      rcases List.mem_cons.1 here with rfl | here
      · exact digit
      · exact List.all_eq_true.1 List.all_takeWhile d here
  · unfold Lexeme.ofSymbol
    repeat' split
    all_goals first
      | exact ofSymbol_lexed c
      | trivial

theorem Cuts.lexed {cs : List Char} {kinds : List Kind} (cuts : Cuts cs kinds) :
    ∀ kind ∈ kinds, kind.Lexed := by
  induction cuts with
  | done => simp
  | blank _ _ ih => exact ih
  | lexeme _ _ ih =>
    intro kind here
    rcases List.mem_cons.1 here with rfl | here
    · exact scan_lexed _ _
    · exact ih kind here

theorem drain_nil (position : Nat) : Tokenizer.drain ⟨[], position, false⟩ =
    ([⟨.eof, position, position⟩], ⟨[], position, true⟩) := by
  have last : (Tokenizer.mk [] position false).next? =
      some (⟨.eof, position, position⟩, ⟨[], position, true⟩) := rfl
  have ended : (Tokenizer.mk [] position true).next? = none := rfl
  rw [Tokenizer.drain_of_next?_some last, Tokenizer.drain_of_next?_none ended]

theorem nextToken_blank {c : Char} (blank : isBlank c = true) (cs : List Char) (position : Nat)
    (finished : Bool) : (Tokenizer.mk (c :: cs) position finished).nextToken =
      (Tokenizer.mk cs (position + c.utf8Size) finished).nextToken := by
  simp [Tokenizer.nextToken, Text.width, blank, Nat.add_assoc]

theorem nextToken_lexeme {c : Char} (visible : isBlank c = false) (cs : List Char)
    (position : Nat) (finished : Bool) :
    let lexeme := Lexeme.scan c cs
    let stop := position + Text.width lexeme.text
    (Tokenizer.mk (c :: cs) position finished).nextToken =
      (⟨lexeme.kind, position, stop⟩, ⟨lexeme.rest, stop, finished⟩) := by
  simp [Tokenizer.nextToken, Text.width, visible]

theorem drain_blank {c : Char} (blank : isBlank c = true) (cs : List Char) (position : Nat) :
    Tokenizer.drain ⟨c :: cs, position, false⟩ =
      Tokenizer.drain ⟨cs, position + c.utf8Size, false⟩ := by
  have next : (Tokenizer.mk (c :: cs) position false).next? =
      (Tokenizer.mk cs (position + c.utf8Size) false).next? := by
    simp only [Tokenizer.next?, nextToken_blank blank]
  cases found : (Tokenizer.mk cs (position + c.utf8Size) false).next? with
  | none => simp [Tokenizer.next?] at found
  | some pair =>
    rw [Tokenizer.drain_of_next?_some found, Tokenizer.drain_of_next?_some (next.trans found)]

theorem scan_ne_eof (c : Char) (cs : List Char) : (Lexeme.scan c cs).kind ≠ .eof := by
  intro eof
  have lexed := scan_lexed c cs
  rw [eof] at lexed
  exact lexed

theorem drain_lexeme {c : Char} (visible : isBlank c = false) (cs : List Char) (position : Nat) :
    let lexeme := Lexeme.scan c cs
    let stop := position + Text.width lexeme.text
    (Tokenizer.drain ⟨c :: cs, position, false⟩).1 =
      ⟨lexeme.kind, position, stop⟩ :: (Tokenizer.drain ⟨lexeme.rest, stop, false⟩).1 := by
  intro lexeme stop
  have step : (Tokenizer.mk (c :: cs) position false).next? =
      some (⟨lexeme.kind, position, stop⟩, ⟨lexeme.rest, stop, false⟩) := by
    simp [Tokenizer.next?, nextToken_lexeme visible, scan_ne_eof, lexeme, stop]
  rw [Tokenizer.drain_of_next?_some step]

/-- The place where reading starts does not matter. -/
theorem Cuts.drain {cs : List Char} {kinds : List Kind} (cuts : Cuts cs kinds) (position : Nat) :
    (Tokenizer.drain ⟨cs, position, false⟩).1.map Token.kind = kinds ++ [.eof] := by
  induction cuts generalizing position with
  | done =>
    rw [drain_nil]
    rfl
  | blank blank _ ih => rw [drain_blank blank, ih]
  | lexeme visible _ ih =>
    rw [drain_lexeme visible, List.map_cons, ih]
    rfl

theorem Cuts.unique {cs : List Char} {kinds kinds' : List Kind} (cuts : Cuts cs kinds)
    (cuts' : Cuts cs kinds') : kinds = kinds' :=
  List.append_cancel_right ((cuts.drain 0).symm.trans (cuts'.drain 0))

/-- What stands here does not go on with the word or the number in front of it. -/
def Apart (cs : List Char) : Prop := ∀ c, cs.head? = some c → isWordChar c = false

theorem apart_nil : Apart [] := fun _ head => by cases head

theorem apart_cons {c : Char} {cs : List Char} (other : isWordChar c = false) :
    Apart (c :: cs) := by
  intro d head
  cases head
  exact other

theorem takeWhile_apart {p : Char → Bool} {cs rest : List Char} (all : ∀ c ∈ cs, p c = true)
    (apart : ∀ c, rest.head? = some c → p c = false) :
    (cs ++ rest).takeWhile p = cs ∧ (cs ++ rest).dropWhile p = rest := by
  rw [List.takeWhile_append_of_pos all, List.dropWhile_append_of_pos all]
  cases rest with
  | nil => simp
  | cons c rest => simp [apart c rfl]

theorem toNat_of_isLetter {c : Char} (letter : isLetter c = true) :
    65 ≤ c.toNat ∧ c.toNat ≤ 122 := by
  -- `change` opens the library's classes of letters without making lemmas for them here.
  change ((decide ('A'.val ≤ c.val ∧ c.val ≤ 'Z'.val) ||
    decide ('a'.val ≤ c.val) && decide (c.val ≤ 'z'.val)) || decide (c = '_')) = true at letter
  simp only [Bool.or_eq_true, decide_eq_true_eq, Bool.and_eq_true, UInt32.le_iff_toNat_le] at letter
  rcases letter with ((⟨low, high⟩ | ⟨low, high⟩) | rfl)
  · exact ⟨low, Nat.le_trans high (by decide)⟩
  · exact ⟨Nat.le_trans (by decide) low, high⟩
  · decide

theorem toNat_of_isDigit {c : Char} (digit : c.isDigit = true) :
    48 ≤ c.toNat ∧ c.toNat ≤ 57 := by
  change (decide ('0'.val ≤ c.val) && decide (c.val ≤ '9'.val)) = true at digit
  simp only [decide_eq_true_eq, Bool.and_eq_true, UInt32.le_iff_toNat_le] at digit
  exact digit

theorem not_isBlank {c : Char} (low : 33 ≤ c.toNat) (high : c.toNat ≤ 126) : isBlank c = false := by
  simp only [isBlank, Text.blankRanges, Text.CodeRanges.contains, List.any_cons, List.any_nil]
  simp
  omega

theorem isBlank_space : isBlank ' ' = true := by decide

theorem isBlank_newline : isBlank '\n' = true := by decide

theorem Cuts.of_scan {c : Char} {cs : List Char} {lexeme : Lexeme} {kinds : List Kind}
    (visible : 33 ≤ c.toNat ∧ c.toNat ≤ 126) (scan : Lexeme.scan c cs = lexeme)
    (others : Cuts lexeme.rest kinds) : Cuts (c :: cs) (lexeme.kind :: kinds) := by
  subst scan
  exact .lexeme (not_isBlank visible.1 visible.2) others

theorem cuts_word {c : Char} {cs rest : List Char} {kinds : List Kind} (letter : isLetter c = true)
    (all : ∀ d ∈ cs, isWordChar d = true) (apart : Apart rest) (others : Cuts rest kinds) :
    Cuts (c :: cs ++ rest) (Kind.ofWord (String.ofList (c :: cs)) :: kinds) := by
  obtain ⟨low, high⟩ := toNat_of_isLetter letter
  obtain ⟨taken, dropped⟩ := takeWhile_apart all apart
  have quote : c ≠ '"' := by
    rintro rfl
    contradiction
  have scan : Lexeme.scan c (cs ++ rest) =
      ⟨Kind.ofWord (String.ofList (c :: cs)), c :: cs, rest⟩ := by
    simp only [Lexeme.scan, quote, letter, if_false, if_true, taken, dropped]
  exact Cuts.of_scan (by omega) scan others

theorem not_isLetter_of_isDigit {c : Char} (digit : c.isDigit = true) : isLetter c = false := by
  have bounds := toNat_of_isDigit digit
  cases letter : isLetter c with
  | false => rfl
  | true =>
    have other := toNat_of_isLetter letter
    omega

theorem isWordChar_of_isDigit {c : Char} (digit : c.isDigit = true) : isWordChar c = true := by
  rw [isWordChar, digit, Bool.or_true]

theorem scan_digits {c : Char} {cs rest : List Char} (all : ∀ d ∈ c :: cs, d.isDigit = true)
    (apart : Apart rest) :
    Lexeme.scan c (cs ++ rest) = ⟨.int (String.ofList (c :: cs)), c :: cs, rest⟩ := by
  obtain ⟨digit, behind⟩ := List.forall_mem_cons.1 all
  have noDigit : ∀ d, rest.head? = some d → d.isDigit = false := by
    intro d head
    cases inner : d.isDigit with
    | false => rfl
    | true => rw [← apart d head, isWordChar_of_isDigit inner]
  obtain ⟨taken, dropped⟩ := takeWhile_apart behind noDigit
  have quote : c ≠ '"' := by
    rintro rfl
    contradiction
  simp only [Lexeme.scan, quote, not_isLetter_of_isDigit digit, digit, if_false, if_true, taken,
    dropped, Bool.false_eq_true]

theorem cuts_digits {digits rest : List Char} {kinds : List Kind} (nonempty : digits ≠ [])
    (all : ∀ d ∈ digits, d.isDigit = true) (apart : Apart rest) (others : Cuts rest kinds) :
    Cuts (digits ++ rest) (.int (String.ofList digits) :: kinds) := by
  obtain ⟨c, cs, rfl⟩ := List.exists_cons_of_ne_nil nonempty
  have bounds := toNat_of_isDigit (all c List.mem_cons_self)
  exact Cuts.of_scan (by omega) (scan_digits all apart) others

theorem cuts_string {contents rest : List Char} {kinds : List Kind} (closed : '"' ∉ contents)
    (others : Cuts rest kinds) :
    Cuts ('"' :: (contents ++ '"' :: rest)) (.string (String.ofList contents) :: kinds) := by
  have all : ∀ c ∈ contents, decide (c ≠ '"') = true := by
    intro c here
    rw [decide_eq_true_eq]
    rintro rfl
    exact closed here
  have stops : ∀ c, ('"' :: rest).head? = some c → decide (c ≠ '"') = false := by
    intro c head
    cases head
    rfl
  obtain ⟨taken, dropped⟩ := takeWhile_apart all stops
  have scan : Lexeme.scan '"' (contents ++ '"' :: rest) =
      ⟨.string (String.ofList contents), '"' :: contents ++ ['"'], rest⟩ := by
    simp only [Lexeme.scan, Lexeme.ofQuote, if_true, taken, dropped]
  exact Cuts.of_scan (by decide) scan others

def IsSymbol (c : Char) : Prop :=
  (33 ≤ c.toNat ∧ c.toNat ≤ 126) ∧ c ≠ '"' ∧ isWordChar c = false

instance (c : Char) : Decidable (IsSymbol c) := inferInstanceAs (Decidable (_ ∧ _))

theorem scan_symbol {c : Char} (quote : c ≠ '"') (other : isWordChar c = false) (cs : List Char) :
    Lexeme.scan c cs = Lexeme.ofSymbol c cs := by
  obtain ⟨letter, digit⟩ := Bool.or_eq_false_iff.1 other
  simp only [Lexeme.scan, quote, letter, digit, if_false, Bool.false_eq_true]

theorem IsSymbol.scan {c : Char} (symbol : IsSymbol c) (cs : List Char) :
    Lexeme.scan c cs = Lexeme.ofSymbol c cs := scan_symbol symbol.2.1 symbol.2.2 cs

theorem ofSymbol_single {c : Char} {rest : List Char}
    (single : c = '=' ∨ c = '!' → rest.head? ≠ some '=') :
    Lexeme.ofSymbol c rest = ⟨Kind.ofSymbol c, [c], rest⟩ := by
  unfold Lexeme.ofSymbol
  split
  · have equals : c ≠ '=' := fun same => single (.inl same) rfl
    have bang : c ≠ '!' := fun same => single (.inr same) rfl
    rw [if_neg equals, if_neg bang]
  · rfl

theorem cuts_symbol {c : Char} {rest : List Char} {kinds : List Kind} (symbol : IsSymbol c)
    (single : c = '=' ∨ c = '!' → rest.head? ≠ some '=') (others : Cuts rest kinds) :
    Cuts (c :: rest) (Kind.ofSymbol c :: kinds) :=
  Cuts.of_scan symbol.1 ((symbol.scan rest).trans (ofSymbol_single single)) others

def Marks (c : Char) (kind : Kind) : Prop :=
  IsSymbol c ∧ c ≠ '=' ∧ c ≠ '!' ∧ Kind.ofSymbol c = kind

instance (c : Char) (kind : Kind) : Decidable (Marks c kind) := inferInstanceAs (Decidable (_ ∧ _))

theorem cuts_mark {c : Char} {kind : Kind} {rest : List Char} {kinds : List Kind}
    (marks : Marks c kind) (others : Cuts rest kinds) : Cuts (c :: rest) (kind :: kinds) := by
  obtain ⟨symbol, equals, bang, rfl⟩ := marks
  apply cuts_symbol symbol _ others
  intro double
  rcases double with same | same
  · exact absurd same equals
  · exact absurd same bang

theorem cuts_equal {rest : List Char} {kinds : List Kind} (others : Cuts rest kinds) :
    Cuts ('=' :: '=' :: rest) (.equal :: kinds) :=
  Cuts.of_scan (by decide) (IsSymbol.scan (by decide) _) others

theorem cuts_notEqual {rest : List Char} {kinds : List Kind} (others : Cuts rest kinds) :
    Cuts ('!' :: '=' :: rest) (.notEqual :: kinds) :=
  Cuts.of_scan (by decide) (IsSymbol.scan (by decide) _) others

end Monkey.Token
