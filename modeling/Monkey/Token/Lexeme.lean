import Monkey.Token.Kind

/-!
One token's share of a text. Reading a lexeme splits the characters from a non-blank one on into
those of the token and those after it; nothing is lost and a lexeme is never empty.
-/
namespace Monkey.Token

def isLetter (c : Char) : Bool := c.isAlpha || c = '_'

def isWordChar (c : Char) : Bool := isLetter c || c.isDigit

structure Lexeme where
  kind : Kind
  text : List Char
  rest : List Char
  deriving DecidableEq, Repr

/-- A string runs to the next quote. Without one it is illegal as a whole. -/
def Lexeme.ofQuote (cs : List Char) : Lexeme :=
  let contents := cs.takeWhile (· ≠ '"')
  match cs.dropWhile (· ≠ '"') with
  | [] => ⟨.illegal (String.ofList ('"' :: cs)), '"' :: cs, []⟩
  | _ :: rest => ⟨.string (String.ofList contents), '"' :: contents ++ ['"'], rest⟩

/-- An equals sign joins the `=` or `!` in front of it. -/
def Lexeme.ofSymbol (c : Char) : List Char → Lexeme
  | '=' :: rest =>
    if c = '=' then ⟨.equal, ['=', '='], rest⟩
    else if c = '!' then ⟨.notEqual, ['!', '='], rest⟩
    else ⟨Kind.ofSymbol c, [c], '=' :: rest⟩
  | rest => ⟨Kind.ofSymbol c, [c], rest⟩

def Lexeme.scan (c : Char) (cs : List Char) : Lexeme :=
  if c = '"' then .ofQuote cs
  else if isLetter c then
    let word := c :: cs.takeWhile isWordChar
    ⟨Kind.ofWord (String.ofList word), word, cs.dropWhile isWordChar⟩
  else if c.isDigit then
    let digits := c :: cs.takeWhile Char.isDigit
    ⟨.int (String.ofList digits), digits, cs.dropWhile Char.isDigit⟩
  else .ofSymbol c cs

theorem Lexeme.ofQuote_text_append_rest (cs : List Char) :
    (ofQuote cs).text ++ (ofQuote cs).rest = '"' :: cs := by
  have whole := List.takeWhile_append_dropWhile (p := (· ≠ '"')) (l := cs)
  unfold ofQuote
  split
  · simp
  · next q rest dropped =>
    have quote : q = '"' := by
      have head := List.head?_dropWhile_not (· ≠ '"') cs
      rw [dropped] at head
      simpa using head
    rw [dropped, quote] at whole
    simp only [List.cons_append, List.append_assoc, List.nil_append]
    rw [whole]

theorem Lexeme.ofSymbol_text_append_rest (c : Char) (cs : List Char) :
    (ofSymbol c cs).text ++ (ofSymbol c cs).rest = c :: cs := by
  unfold ofSymbol
  split
  · split
    · simp_all
    · split <;> simp_all
  · rfl

theorem Lexeme.scan_text_append_rest (c : Char) (cs : List Char) :
    (scan c cs).text ++ (scan c cs).rest = c :: cs := by
  unfold scan
  split
  · next quote => rw [quote]; exact ofQuote_text_append_rest cs
  · split
    · simp
    · split
      · simp
      · exact ofSymbol_text_append_rest c cs

theorem Lexeme.scan_text_ne_nil (c : Char) (cs : List Char) : (scan c cs).text ≠ [] := by
  unfold scan ofQuote ofSymbol
  repeat' split
  all_goals simp

theorem Lexeme.scan_rest_length_le (c : Char) (cs : List Char) :
    (scan c cs).rest.length ≤ cs.length := by
  have whole := congrArg List.length (scan_text_append_rest c cs)
  have nonempty := List.length_pos_iff.2 (scan_text_ne_nil c cs)
  simp only [List.length_append, List.length_cons] at whole
  omega

end Monkey.Token
