import Mathlib.Data.List.TakeWhile
import Monkey.Proofs.Token.Tiling

/-!
Which lists of kinds come from cutting a text, and that cutting undoes writing them down. Spelled out
with a space between each two, such a list is cut into the same kinds again.
-/
namespace Monkey.Token
open Text (isBlank)

def starters : List Char :=
  ['"', '=', '!', '+', '-', '*', '/', '<', '>', ',', ':', ';', '(', ')', '{', '}', '[', ']']

def Stray (c : Char) : Prop := isBlank c = false ∧ isWordChar c = false ∧ c ∉ starters

instance (c : Char) : Decidable (Stray c) := inferInstanceAs (Decidable (_ ∧ _))

def Kind.Closed : Kind → Prop
  | .illegal text => ∃ c, text = String.singleton c ∧ Stray c
  | kind => kind.Lexed

def Kind.Unclosed : Kind → Prop
  | .illegal text => ∃ contents, text.toList = '"' :: contents ∧ '"' ∉ contents
  | _ => False

/-- The kinds may stand one behind the other in a text. -/
def Lexable : List Kind → Prop
  | [] => True
  | [kind] => kind.Closed ∨ kind.Unclosed
  | kind :: next :: kinds => kind.Closed ∧ Lexable (next :: kinds)

theorem Lexable.cons {kind : Kind} {kinds : List Kind} (closed : kind.Closed)
    (lexable : Lexable kinds) : Lexable (kind :: kinds) := by
  cases kinds with
  | nil => exact .inl closed
  | cons next kinds => exact ⟨closed, lexable⟩

theorem ofSymbol_of_notMem {c : Char} (other : c ∉ starters) :
    Kind.ofSymbol c = .illegal (String.singleton c) := by
  unfold Kind.ofSymbol
  split <;> first | rfl | simp [starters] at other

theorem notMem_of_ofSymbol {c : Char} {text : String} (quote : c ≠ '"')
    (illegal : Kind.ofSymbol c = .illegal text) : c ∉ starters := by
  intro start
  simp only [starters, List.mem_cons, List.not_mem_nil, or_false] at start
  rcases start with same | rfl | rfl | rfl | rfl | rfl | rfl | rfl | rfl | rfl | rfl | rfl | rfl |
    rfl | rfl | rfl | rfl | rfl
  · exact quote same
  all_goals contradiction

theorem ofWord_ne_illegal (word text : String) : Kind.ofWord word ≠ .illegal text := by
  rw [Kind.ofWord, keywords]
  simp only [List.lookup_cons, List.lookup_nil]
  repeat' split
  all_goals simp

theorem ofQuote_closed (cs : List Char) : (Lexeme.ofQuote cs).kind.Closed ∨
    (Lexeme.ofQuote cs).kind.Unclosed ∧ (Lexeme.ofQuote cs).rest = [] := by
  have lexed := scan_lexed '"' cs
  rw [show Lexeme.scan '"' cs = Lexeme.ofQuote cs from rfl] at lexed
  unfold Lexeme.ofQuote at lexed ⊢
  split at lexed
  · next dropped =>
    refine .inr ⟨⟨cs, ?_, ?_⟩, rfl⟩
    · simp
    · intro here
      have other := List.dropWhile_eq_nil_iff.1 dropped _ here
      simp at other
  · exact .inl lexed

theorem closed_of_lexed {kind : Kind} (lexed : kind.Lexed)
    (illegal : ∀ text, kind = .illegal text → ∃ c, text = String.singleton c ∧ Stray c) :
    kind.Closed := by
  cases kind with
  | illegal text => exact illegal text rfl
  | _ => exact lexed

theorem ofSymbol_closed {c : Char} (visible : isBlank c = false) (quote : c ≠ '"')
    (other : isWordChar c = false) : (Kind.ofSymbol c).Closed := by
  apply closed_of_lexed (ofSymbol_lexed c)
  intro text illegal
  have free := notMem_of_ofSymbol quote illegal
  have same := (ofSymbol_of_notMem free).symm.trans illegal
  exact ⟨c, (Kind.illegal.inj same).symm, visible, other, free⟩

/-- A kind that is read is closed, unless it is that of a string that takes all the rest. -/
theorem scan_closed {c : Char} (visible : isBlank c = false) (cs : List Char) :
    (Lexeme.scan c cs).kind.Closed ∨
      (Lexeme.scan c cs).kind.Unclosed ∧ (Lexeme.scan c cs).rest = [] := by
  have lexed := scan_lexed c cs
  by_cases quote : c = '"'
  · rw [quote]
    exact ofQuote_closed cs
  · left
    cases other : isWordChar c with
    | true =>
      apply closed_of_lexed lexed
      intro text illegal
      unfold Lexeme.scan at illegal
      rw [if_neg quote] at illegal
      split at illegal
      · exact absurd illegal (ofWord_ne_illegal _ _)
      · split at illegal
        · contradiction
        · simp_all [isWordChar]
    | false =>
      rw [scan_symbol quote other]
      unfold Lexeme.ofSymbol
      repeat' split
      · trivial
      · trivial
      all_goals exact ofSymbol_closed visible quote other

theorem Cuts.lexable {cs : List Char} {kinds : List Kind} (cuts : Cuts cs kinds) :
    Lexable kinds := by
  induction cuts with
  | done => trivial
  | blank _ _ ih => exact ih
  | @lexeme c cs kinds visible others ih =>
    rcases scan_closed visible cs with closed | ⟨unclosed, rest⟩
    · exact .cons closed ih
    · rw [rest] at others
      cases others
      exact .inr unclosed

def Spaced (cs : List Char) : Prop := ∀ c, cs.head? = some c → c = ' '

theorem Spaced.apart {cs : List Char} (spaced : Spaced cs) : Apart cs := by
  intro c head
  rw [spaced c head]
  decide

variable {rest : List Char} {more : List Kind}

theorem spelled_mark (c : Char) {kind : Kind} (marks : Marks c kind) (others : Cuts rest more) :
    Cuts (kind.spelling.toList ++ rest) (kind :: more) := by
  have spelled := ofSymbol_spelling c
  rw [marks.2.2.2] at spelled
  rw [spelled, String.toList_singleton]
  exact cuts_mark marks others

theorem spelled_word (c : Char) (cs : List Char) {kind : Kind}
    (word : Kind.ofWord (String.ofList (c :: cs)) = kind ∧ isLetter c = true ∧
      cs.all isWordChar = true) (spaced : Spaced rest) (others : Cuts rest more) :
    Cuts (kind.spelling.toList ++ rest) (kind :: more) := by
  obtain ⟨rfl, letter, all⟩ := word
  rw [ofWord_spelling, String.toList_ofList]
  exact cuts_word letter (List.all_eq_true.1 all) spaced.apart others

theorem spelled_stray {c : Char} (stray : Stray c) (others : Cuts rest more) :
    Cuts (c :: rest) (.illegal (String.singleton c) :: more) := by
  obtain ⟨visible, other, free⟩ := stray
  have quote : c ≠ '"' := by
    rintro rfl
    exact free (by decide)
  have single : c = '=' ∨ c = '!' → rest.head? ≠ some '=' := by
    rintro (rfl | rfl)
    · exact absurd (by decide) free
    · exact absurd (by decide) free
  have scan := (scan_symbol quote other rest).trans (ofSymbol_single single)
  have cuts : Cuts (Lexeme.scan c rest).rest more := by rwa [scan]
  have whole := Cuts.lexeme visible cuts
  rwa [scan, ofSymbol_of_notMem free] at whole

theorem Kind.Closed.cuts {kind : Kind} (closed : kind.Closed) (spaced : Spaced rest)
    (others : Cuts rest more) : Cuts (kind.spelling.toList ++ rest) (kind :: more) := by
  have single : rest.head? ≠ some '=' := by
    intro head
    have space := spaced '=' head
    contradiction
  cases kind with
  | illegal text =>
    obtain ⟨c, rfl, stray⟩ := closed
    simpa [spelling] using spelled_stray stray others
  | eof => exact closed.elim
  | ident name =>
    obtain ⟨⟨c, cs, spelled, letter, all⟩, free⟩ := closed
    apply spelled_word c cs ⟨_, letter, List.all_eq_true.2 all⟩ spaced others
    rw [← spelled, String.ofList_toList, Kind.ofWord, free, Option.getD_none]
  | int digits =>
    obtain ⟨nonempty, all⟩ := closed
    have cuts := cuts_digits nonempty all spaced.apart others
    rwa [String.ofList_toList] at cuts
  | string contents =>
    have cuts := cuts_string closed others
    rw [String.ofList_toList] at cuts
    simpa [spelling] using cuts
  | assign => exact cuts_symbol (c := '=') (by decide) (fun _ => single) others
  | bang => exact cuts_symbol (c := '!') (by decide) (fun _ => single) others
  | equal => exact cuts_equal others
  | notEqual => exact cuts_notEqual others
  | plus => exact spelled_mark '+' (by decide) others
  | minus => exact spelled_mark '-' (by decide) others
  | asterisk => exact spelled_mark '*' (by decide) others
  | slash => exact spelled_mark '/' (by decide) others
  | greaterThan => exact spelled_mark '>' (by decide) others
  | lessThan => exact spelled_mark '<' (by decide) others
  | comma => exact spelled_mark ',' (by decide) others
  | colon => exact spelled_mark ':' (by decide) others
  | semicolon => exact spelled_mark ';' (by decide) others
  | lparen => exact spelled_mark '(' (by decide) others
  | rparen => exact spelled_mark ')' (by decide) others
  | lbrace => exact spelled_mark '{' (by decide) others
  | rbrace => exact spelled_mark '}' (by decide) others
  | lbracket => exact spelled_mark '[' (by decide) others
  | rbracket => exact spelled_mark ']' (by decide) others
  | fnKeyword => exact spelled_word 'f' ['n'] (by decide) spaced others
  | letKeyword => exact spelled_word 'l' ['e', 't'] (by decide) spaced others
  | trueKeyword => exact spelled_word 't' ['r', 'u', 'e'] (by decide) spaced others
  | falseKeyword => exact spelled_word 'f' ['a', 'l', 's', 'e'] (by decide) spaced others
  | ifKeyword => exact spelled_word 'i' ['f'] (by decide) spaced others
  | elseKeyword => exact spelled_word 'e' ['l', 's', 'e'] (by decide) spaced others
  | returnKeyword => exact spelled_word 'r' ['e', 't', 'u', 'r', 'n'] (by decide) spaced others

theorem Kind.Unclosed.cuts {kind : Kind} (unclosed : kind.Unclosed) :
    Cuts kind.spelling.toList [kind] := by
  cases kind with
  | illegal text =>
    obtain ⟨contents, spelled, noQuote⟩ := unclosed
    have dropped : contents.dropWhile (· ≠ '"') = [] := by
      rw [List.dropWhile_eq_nil_iff]
      intro c here
      rw [decide_eq_true_eq]
      rintro rfl
      exact noQuote here
    have scan : Lexeme.scan '"' contents = ⟨.illegal text, '"' :: contents, []⟩ := by
      simp only [Lexeme.scan, if_true, Lexeme.ofQuote, dropped]
      rw [← spelled, String.ofList_toList]
    rw [Kind.spelling, spelled]
    exact Cuts.of_scan (by decide) scan .done
  | _ => exact unclosed.elim

def spelledOut (kinds : List Kind) : String := String.intercalate " " (kinds.map Kind.spelling)

theorem spelledOut_cons (kind next : Kind) (kinds : List Kind) :
    (spelledOut (kind :: next :: kinds)).toList =
      kind.spelling.toList ++ ' ' :: (spelledOut (next :: kinds)).toList := by
  simp [spelledOut, List.intercalate]

theorem Lexable.cuts : ∀ {kinds : List Kind}, Lexable kinds → Cuts (spelledOut kinds).toList kinds
  | [], _ => .done
  | [kind], ends => by
    have alone : (spelledOut [kind]).toList = kind.spelling.toList := by simp [spelledOut]
    rw [alone]
    rcases ends with closed | unclosed
    · have cuts : Cuts (kind.spelling.toList ++ []) [kind] :=
        closed.cuts (fun _ head => by cases head) .done
      rwa [List.append_nil] at cuts
    · exact unclosed.cuts
  | kind :: next :: kinds, ⟨closed, lexable⟩ => by
    rw [spelledOut_cons]
    have spaced : Spaced (' ' :: (spelledOut (next :: kinds)).toList) := by
      intro c head
      cases head
      rfl
    exact closed.cuts spaced (.blank isBlank_space lexable.cuts)

end Monkey.Token

namespace Monkey
open Token (Kind Lexable spelledOut)

/-- The kinds that a text is cut into can stand one behind the other, and kinds that can are what
their spellings, with spaces between them, are cut into. So a text may be spelled out again token by
token, and its kinds stay the same. -/
theorem lexing_undoes_spelling :
    (∀ source, ∃ kinds, (lex source).map Token.kind = kinds ++ [.eof] ∧ Lexable kinds) ∧
      (∀ kinds, Lexable kinds → (lex (spelledOut kinds)).map Token.kind = kinds ++ [.eof]) ∧
      ∀ source, (lex (spelledOut ((lex source).dropLast.map Token.kind))).map Token.kind =
        (lex source).map Token.kind := by
  have image : ∀ source, ∃ kinds, (lex source).map Token.kind = kinds ++ [.eof] ∧
      Lexable kinds := by
    intro source
    obtain ⟨kinds, cuts⟩ := Token.exists_cuts source.toList
    exact ⟨kinds, cuts.drain 0, cuts.lexable⟩
  have inverse : ∀ kinds, Lexable kinds →
      (lex (spelledOut kinds)).map Token.kind = kinds ++ [.eof] :=
    fun kinds lexable => lexable.cuts.drain 0
  refine ⟨image, inverse, ?_⟩
  intro source
  obtain ⟨kinds, whole, lexable⟩ := image source
  rw [List.map_dropLast, whole, List.dropLast_concat]
  exact inverse kinds lexable

def mixedKinds : List Kind := [.ident "a1", .illegal "é", .string "b c", .illegal "\"d "]

theorem mixedKinds_spelled_out :
    Lexable mixedKinds ∧ (lex (spelledOut mixedKinds)).map Token.kind = mixedKinds ++ [.eof] := by
  have named : Token.IsName "a1" :=
    ⟨⟨'a', ['1'], by decide, by decide, List.all_eq_true.1 (by decide)⟩, by decide⟩
  have lexable : Lexable mixedKinds := by
    refine ⟨named, ⟨'é', rfl, by decide⟩, ?_, .inr ⟨['d', ' '], by decide, by decide⟩⟩
    show '"' ∉ "b c".toList
    decide
  exact ⟨lexable, lexing_undoes_spelling.2.1 _ lexable⟩

end Monkey
