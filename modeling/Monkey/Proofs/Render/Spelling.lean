import Monkey.Program.Render
import Monkey.Proofs.Grammar
import Monkey.Proofs.Numeral
import Monkey.Proofs.Program.Throughout
import Monkey.Proofs.Token.Cut

/-!
How the text of a program is cut into tokens. A tree is lexical when its names and strings are such
as tokens hold, and writable when its numbers are, too; the rendering of a lexical tree is cut into
the kinds given here.
-/
namespace Monkey
open Token (Kind)

/-- What the node itself holds can be written so that it is read back. -/
def Expr.NodeWritable : Expr → Prop
  | .ident name => Token.IsName name
  | .int value => 0 ≤ value.toInt
  | .string contents => '"' ∉ contents.toList
  | .fn parameters _ => ∀ name ∈ parameters, Token.IsName name
  | _ => True

def Stmt.NodeWritable : Stmt → Prop
  | .letStmt name _ => Token.IsName name
  | _ => True

abbrev Expr.Writable : Expr → Prop := Expr.Throughout Expr.NodeWritable Stmt.NodeWritable

abbrev Stmt.Writable : Stmt → Prop := Stmt.Throughout Expr.NodeWritable Stmt.NodeWritable

abbrev AllWritable : List Stmt → Prop := AllThroughout Expr.NodeWritable Stmt.NodeWritable

abbrev EachWritable : List Expr → Prop := EachThroughout Expr.NodeWritable Stmt.NodeWritable

/-- What the node itself holds can be written so that it is cut off as what it was. -/
def Expr.NodeLexical : Expr → Prop
  | .int _ => True
  | e => e.NodeWritable

abbrev Expr.Lexical : Expr → Prop := Expr.Throughout Expr.NodeLexical Stmt.NodeWritable

abbrev Stmt.Lexical : Stmt → Prop := Stmt.Throughout Expr.NodeLexical Stmt.NodeWritable

abbrev AllLexical : List Stmt → Prop := AllThroughout Expr.NodeLexical Stmt.NodeWritable

abbrev EachLexical : List Expr → Prop := EachThroughout Expr.NodeLexical Stmt.NodeWritable

theorem Expr.NodeWritable.lexical {e : Expr} (writable : e.NodeWritable) : e.NodeLexical := by
  cases e with
  | int value => trivial
  | _ => exact writable

def BinaryOp.kind : BinaryOp → Kind
  | .plus => .plus
  | .minus => .minus
  | .lessThan => .lessThan
  | .greaterThan => .greaterThan
  | .equal => .equal
  | .notEqual => .notEqual
  | .multiply => .asterisk
  | .divide => .slash

theorem BinaryOp.ofKind?_kind (op : BinaryOp) : BinaryOp.ofKind? op.kind = some op := by
  cases op <;> rfl

/-- The kinds that a numeral is cut into. A sign is a token of its own. -/
def numeralKinds (value : Int64) : List Kind :=
  if value.toInt < 0 then [.minus, .int (Nat.repr value.toInt.natAbs)]
  else [.int (Nat.repr value.toInt.natAbs)]

theorem numeralKinds_of_nonneg {value : Int64} (nonneg : 0 ≤ value.toInt) :
    numeralKinds value = [.int (Numeral.write value)] := by
  rw [numeralKinds, if_neg (Int.not_lt.2 nonneg), Numeral.write, if_neg (Int.not_lt.2 nonneg)]

theorem numeralKinds_of_neg {value : Int64} (neg : value.toInt < 0) :
    numeralKinds value = [.minus, .int (Nat.repr value.toInt.natAbs)] := if_pos neg

mutual

def Expr.kinds : Expr → List Kind
  | .ident name => [.ident name]
  | .int value => numeralKinds value
  | .string contents => [.string contents]
  | .bool true => [.trueKeyword]
  | .bool false => [.falseKeyword]
  | .unary op operand => .lparen :: op.kind :: (operand.kinds ++ [.rparen])
  | .binary op left right => .lparen :: (left.kinds ++ op.kind :: (right.kinds ++ [.rparen]))
  | .cond test consequence none =>
    .ifKeyword :: (test.kinds ++ .lbrace :: (allKinds consequence ++ [.rbrace]))
  | .cond test consequence (some alternative) =>
    .ifKeyword :: (test.kinds ++ .lbrace :: (allKinds consequence ++ .rbrace :: .elseKeyword ::
      .lbrace :: (allKinds alternative ++ [.rbrace])))
  | .fn parameters body =>
    .fnKeyword :: .lparen :: ((parameters.map Kind.ident).intersperse .comma ++ .rparen ::
      .lbrace :: (allKinds body ++ [.rbrace]))
  | .call callee arguments => callee.kinds ++ .lparen :: (eachKinds arguments ++ [.rparen])
termination_by structural e => e

def Stmt.kinds : Stmt → List Kind
  | .letStmt name value => .letKeyword :: .ident name :: .assign :: value.kinds
  | .returnStmt value => .returnKeyword :: value.kinds
  | .exprStmt value => value.kinds
termination_by structural s => s

def allKinds : List Stmt → List Kind
  | [] => []
  | statement :: statements => statement.kinds ++ .semicolon :: allKinds statements
termination_by structural ss => ss

def eachKinds : List Expr → List Kind
  | [] => []
  | [argument] => argument.kinds
  | argument :: next :: arguments => argument.kinds ++ .comma :: eachKinds (next :: arguments)
termination_by structural es => es

end

theorem Expr.kinds_start : ∀ e : Expr,
    ∃ kind rest, e.kinds = kind :: rest ∧ Grammar.StartsExpression kind
  | .ident _ => ⟨_, _, rfl, trivial⟩
  | .int value => by
    rw [Expr.kinds, numeralKinds]
    split
    · exact ⟨_, _, rfl, trivial⟩
    · exact ⟨_, _, rfl, trivial⟩
  | .string _ => ⟨_, _, rfl, trivial⟩
  | .bool true => ⟨_, _, rfl, trivial⟩
  | .bool false => ⟨_, _, rfl, trivial⟩
  | .unary _ _ => ⟨_, _, rfl, trivial⟩
  | .binary _ _ _ => ⟨_, _, rfl, trivial⟩
  | .cond _ _ none => ⟨_, _, rfl, trivial⟩
  | .cond _ _ (some _) => ⟨_, _, rfl, trivial⟩
  | .fn _ _ => ⟨_, _, rfl, trivial⟩
  | .call callee _ => by
    obtain ⟨kind, rest, spelled, starts⟩ := callee.kinds_start
    exact ⟨kind, _, by rw [Expr.kinds, spelled]; rfl, starts⟩
termination_by structural e => e

theorem Stmt.kinds_start (statement : Stmt) :
    ∃ kind rest, statement.kinds = kind :: rest ∧ Grammar.StartsStatement kind := by
  cases statement with
  | letStmt name value => exact ⟨_, _, rfl, trivial⟩
  | returnStmt value => exact ⟨_, _, rfl, trivial⟩
  | exprStmt value =>
    obtain ⟨kind, rest, spelled, starts⟩ := value.kinds_start
    exact ⟨kind, rest, spelled, starts.statement⟩

open Token

theorem cuts_space {rest : List Char} {kinds : List Kind} (others : Cuts rest kinds) :
    Cuts (' ' :: rest) kinds := .blank isBlank_space others

theorem apart_space (rest : List Char) : Apart (' ' :: rest) := apart_cons (by decide)

theorem name_cut {name : String} {rest : List Char} {kinds : List Kind} (named : IsName name)
    (apart : Apart rest) (others : Cuts rest kinds) :
    Cuts (name.toList ++ rest) (.ident name :: kinds) := by
  obtain ⟨⟨c, cs, spelled, letter, all⟩, free⟩ := named
  have cuts := cuts_word letter all apart others
  rw [← spelled, String.ofList_toList, Kind.ofWord, free] at cuts
  exact cuts

theorem cuts_keyword (c : Char) (cs : List Char) (kind : Kind)
    (keyword : Kind.ofWord (String.ofList (c :: cs)) = kind ∧ isLetter c = true ∧
      cs.all isWordChar = true) {rest : List Char} {kinds : List Kind} (apart : Apart rest)
    (others : Cuts rest kinds) : Cuts (c :: cs ++ rest) (kind :: kinds) := by
  obtain ⟨rfl, letter, all⟩ := keyword
  exact cuts_word letter (List.all_eq_true.1 all) apart others

theorem cuts_lparen {rest : List Char} {kinds : List Kind} (others : Cuts rest kinds) :
    Cuts ('(' :: rest) (.lparen :: kinds) := cuts_mark (by decide) others

theorem cuts_rparen {rest : List Char} {kinds : List Kind} (others : Cuts rest kinds) :
    Cuts (')' :: rest) (.rparen :: kinds) := cuts_mark (by decide) others

theorem cuts_comma {rest : List Char} {kinds : List Kind} (others : Cuts rest kinds) :
    Cuts (',' :: rest) (.comma :: kinds) := cuts_mark (by decide) others

theorem cuts_semicolon {rest : List Char} {kinds : List Kind} (others : Cuts rest kinds) :
    Cuts (';' :: rest) (.semicolon :: kinds) := cuts_mark (by decide) others

theorem BinaryOp.cuts (op : BinaryOp) {rest : List Char} {kinds : List Kind}
    (others : Cuts rest kinds) : Cuts (op.symbol.toList ++ ' ' :: rest) (op.kind :: kinds) := by
  have behind := cuts_space others
  cases op with
  | plus => simpa [symbol, kind] using cuts_mark (c := '+') (by decide) behind
  | minus => simpa [symbol, kind] using cuts_mark (c := '-') (by decide) behind
  | lessThan => simpa [symbol, kind] using cuts_mark (c := '<') (by decide) behind
  | greaterThan => simpa [symbol, kind] using cuts_mark (c := '>') (by decide) behind
  | multiply => simpa [symbol, kind] using cuts_mark (c := '*') (by decide) behind
  | divide => simpa [symbol, kind] using cuts_mark (c := '/') (by decide) behind
  | equal => simpa [symbol, kind] using cuts_equal behind
  | notEqual => simpa [symbol, kind] using cuts_notEqual behind

theorem UnaryOp.cuts (op : UnaryOp) {rest : List Char} {kinds : List Kind}
    (single : rest.head? ≠ some '=') (others : Cuts rest kinds) :
    Cuts (op.symbol.toList ++ rest) (op.kind :: kinds) := by
  cases op with
  | minus => simpa [symbol, kind] using cuts_mark (c := '-') (by decide) others
  | bang =>
    have cuts : Cuts ('!' :: rest) (.bang :: kinds) :=
      cuts_symbol (by decide) (fun _ => single) others
    simpa [symbol, kind] using cuts

/-- What is cut off the front of a text whatever stands behind it, if it stands apart. -/
def CutsOff (cs : List Char) (kinds : List Kind) : Prop :=
  ∀ {rest more}, Apart rest → Cuts rest more → Cuts (cs ++ rest) (kinds ++ more)

theorem names_cut {names : List String} (named : ∀ name ∈ names, IsName name) :
    CutsOff ([',', ' '].intercalate (names.map String.toList))
      ((names.map Kind.ident).intersperse .comma) := by
  intro rest more apart others
  induction names with
  | nil => exact others
  | cons name names ih =>
    have first := named name List.mem_cons_self
    have behind := ih fun name here => named name (List.mem_cons_of_mem _ here)
    cases names with
    | nil => simpa using name_cut first apart others
    | cons second names =>
      have comma := cuts_comma (cuts_space behind)
      simpa [List.intercalate] using name_cut first (apart_cons (by decide)) comma

/-- No text of an expression would turn an exclamation mark in front of it into another token. -/
theorem Expr.first_char : ∀ e : Expr, e.Lexical → ∃ c, e.render.toList.head? = some c ∧ c ≠ '='
  | .ident name, named => by
    obtain ⟨⟨c, cs, spelled, letter, -⟩, -⟩ := named
    have other : c ≠ '=' := by
      intro same
      rw [same] at letter
      contradiction
    exact ⟨c, by rw [Expr.render, spelled, List.head?_cons], other⟩
  | .int value, _ => by
    rw [Expr.render]
    by_cases neg : value.toInt < 0
    · exact ⟨'-', by simp [Numeral.write, neg], by decide⟩
    · obtain ⟨nonempty, all⟩ := Numeral.write_digits (Int.not_lt.1 neg)
      obtain ⟨c, cs, spelled⟩ := List.exists_cons_of_ne_nil nonempty
      have digit := all c (by rw [spelled]; exact List.mem_cons_self)
      have other : c ≠ '=' := by
        intro same
        rw [same] at digit
        contradiction
      exact ⟨c, by rw [spelled, List.head?_cons], other⟩
  | .string contents, _ => ⟨'"', by simp [Expr.render], by decide⟩
  | .bool true, _ => ⟨'t', by simp [Expr.render], by decide⟩
  | .bool false, _ => ⟨'f', by simp [Expr.render], by decide⟩
  | .unary _ _, _ => ⟨'(', by simp [Expr.render], by decide⟩
  | .binary _ _ _, _ => ⟨'(', by simp [Expr.render], by decide⟩
  | .cond _ _ none, _ => ⟨'i', by simp [Expr.render], by decide⟩
  | .cond _ _ (some _), _ => ⟨'i', by simp [Expr.render], by decide⟩
  | .fn _ _, _ => ⟨'f', by simp [Expr.render], by decide⟩
  | .call callee _, ⟨_, writable, _⟩ => by
    obtain ⟨c, spelled, other⟩ := callee.first_char writable
    exact ⟨c, by simp [Expr.render, spelled], other⟩
termination_by structural e => e

theorem braced_toList (statements : List String) :
    (braced statements).toList =
      '{' :: ([' '].intercalate (statements.map String.toList) ++ ['}']) := by
  simp [braced]

theorem numeral_cut (value : Int64) :
    CutsOff (Numeral.write value).toList (numeralKinds value) := by
  intro rest more apart others
  have digits : ∀ n : Nat, Cuts ((Nat.repr n).toList ++ rest) (.int (Nat.repr n) :: more) := by
    intro n
    obtain ⟨nonempty, all⟩ := Numeral.repr_digits n
    have cuts := cuts_digits nonempty all apart others
    rwa [String.ofList_toList] at cuts
  by_cases neg : value.toInt < 0
  · rw [numeralKinds_of_neg neg, Numeral.write, if_pos neg]
    have cuts : Cuts ('-' :: _) (.minus :: _) := cuts_mark (by decide) (digits value.toInt.natAbs)
    simpa using cuts
  · rw [numeralKinds, Numeral.write, if_neg neg, if_neg neg]
    exact digits _

theorem braces_cut {cs rest : List Char} {kinds more : List Kind} (inside : CutsOff cs kinds)
    (others : Cuts rest more) :
    Cuts ('{' :: (cs ++ '}' :: rest)) (.lbrace :: (kinds ++ .rbrace :: more)) := by
  have closing : Cuts ('}' :: rest) (.rbrace :: more) := cuts_mark (by decide) others
  exact cuts_mark (by decide) (inside (apart_cons (by decide)) closing)

mutual

theorem Expr.cuts : ∀ e : Expr, e.Lexical → CutsOff e.render.toList e.kinds
  | .ident name, named, rest, more, apart, others => name_cut named apart others
  | .int value, _, rest, more, apart, others => numeral_cut value apart others
  | .string contents, closed, rest, more, apart, others => by
    have cuts := cuts_string closed others
    rw [String.ofList_toList] at cuts
    simpa [Expr.render, Expr.kinds] using cuts
  | .bool true, _, rest, more, apart, others => by
    have cuts := cuts_keyword 't' ['r', 'u', 'e'] .trueKeyword (by decide) apart others
    simpa [Expr.render, Expr.kinds] using cuts
  | .bool false, _, rest, more, apart, others => by
    have cuts := cuts_keyword 'f' ['a', 'l', 's', 'e'] .falseKeyword (by decide) apart others
    simpa [Expr.render, Expr.kinds] using cuts
  | .unary op operand, ⟨_, writable⟩, rest, more, apart, others => by
    have inner := operand.cuts writable (apart_cons (by decide)) (cuts_rparen others)
    have single : (operand.render.toList ++ ')' :: rest).head? ≠ some '=' := by
      obtain ⟨c, first, other⟩ := operand.first_char writable
      simpa [first] using other
    have cuts := cuts_lparen (op.cuts single inner)
    simpa [Expr.render, Expr.kinds] using cuts
  | .binary op left right, ⟨_, first, second⟩, rest, more, apart, others => by
    have inner := right.cuts second (apart_cons (by decide)) (cuts_rparen others)
    have operator := cuts_space (op.cuts inner)
    have cuts := cuts_lparen (left.cuts first (apart_space _) operator)
    simpa [Expr.render, Expr.kinds] using cuts
  | .cond test consequence none, ⟨_, condition, branch⟩, rest, more, apart, others => by
    have block := cuts_space (braces_cut (allCut consequence branch) others)
    have inner := cuts_space (test.cuts condition (apart_space _) block)
    have cuts := cuts_keyword 'i' ['f'] .ifKeyword (by decide) (apart_space _) inner
    simpa [Expr.render, Expr.kinds, braced_toList] using cuts
  | .cond test consequence (some alternative), ⟨_, condition, branch, other⟩, rest, more, apart,
      others => by
    have otherwise := cuts_space (braces_cut (allCut alternative other) others)
    have keyword := cuts_space
      (cuts_keyword 'e' ['l', 's', 'e'] .elseKeyword (by decide) (apart_space _) otherwise)
    have block := cuts_space (braces_cut (allCut consequence branch) keyword)
    have inner := cuts_space (test.cuts condition (apart_space _) block)
    have cuts := cuts_keyword 'i' ['f'] .ifKeyword (by decide) (apart_space _) inner
    simpa [Expr.render, Expr.kinds, braced_toList] using cuts
  | .fn parameters body, ⟨named, writable⟩, rest, more, apart, others => by
    have block := cuts_rparen (cuts_space (braces_cut (allCut body writable) others))
    have list := cuts_lparen (names_cut named (apart_cons (by decide)) block)
    have cuts := cuts_keyword 'f' ['n'] .fnKeyword (by decide) (apart_cons (by decide)) list
    simpa [Expr.render, Expr.kinds, braced_toList] using cuts
  | .call callee arguments, ⟨_, function, given⟩, rest, more, apart, others => by
    have list := eachCut arguments given (apart_cons (by decide)) (cuts_rparen others)
    have cuts := callee.cuts function (apart_cons (by decide)) (cuts_lparen list)
    simpa [Expr.render, Expr.kinds] using cuts
termination_by structural e => e

theorem Stmt.cuts : ∀ s : Stmt, s.Lexical → CutsOff s.render.toList (s.kinds ++ [.semicolon])
  | .letStmt name value, ⟨named, writable⟩, rest, more, apart, others => by
    have inner := value.cuts writable (apart_cons (by decide)) (cuts_semicolon others)
    have single : (' ' :: (value.render.toList ++ ';' :: rest)).head? ≠ some '=' := by simp
    have equals : Cuts ('=' :: ' ' :: (value.render.toList ++ ';' :: rest))
        (.assign :: (value.kinds ++ .semicolon :: more)) :=
      cuts_symbol (by decide) (fun _ => single) (cuts_space inner)
    have bound := name_cut named (apart_space _) (cuts_space equals)
    have cuts := cuts_keyword 'l' ['e', 't'] .letKeyword (by decide) (apart_space _)
      (cuts_space bound)
    simpa [Stmt.render, Stmt.kinds] using cuts
  | .returnStmt value, ⟨_, writable⟩, rest, more, apart, others => by
    have inner := value.cuts writable (apart_cons (by decide)) (cuts_semicolon others)
    have cuts := cuts_keyword 'r' ['e', 't', 'u', 'r', 'n'] .returnKeyword (by decide)
      (apart_space _) (cuts_space inner)
    simpa [Stmt.render, Stmt.kinds] using cuts
  | .exprStmt value, ⟨_, writable⟩, rest, more, apart, others => by
    have cuts := value.cuts writable (apart_cons (by decide)) (cuts_semicolon others)
    simpa [Stmt.render, Stmt.kinds] using cuts
termination_by structural s => s

theorem allCut : ∀ ss : List Stmt, AllLexical ss →
    CutsOff ([' '].intercalate ((renderAll ss).map String.toList)) (allKinds ss)
  | [], _, rest, more, apart, others => others
  | [statement], ⟨writable, _⟩, rest, more, apart, others => by
    have cuts := statement.cuts writable apart others
    simpa [renderAll, allKinds] using cuts
  | statement :: next :: statements, ⟨writable, behind⟩, rest, more, apart, others => by
    have tail := cuts_space (allCut (next :: statements) behind apart others)
    have cuts := statement.cuts writable (apart_space _) tail
    simpa [renderAll, allKinds, List.intercalate] using cuts
termination_by structural ss => ss

theorem eachCut : ∀ es : List Expr, EachLexical es →
    CutsOff ([',', ' '].intercalate ((renderEach es).map String.toList)) (eachKinds es)
  | [], _, rest, more, apart, others => others
  | [argument], ⟨writable, _⟩, rest, more, apart, others => by
    have cuts := argument.cuts writable apart others
    simpa [renderEach, eachKinds] using cuts
  | argument :: next :: arguments, ⟨writable, behind⟩, rest, more, apart, others => by
    have tail := eachCut (next :: arguments) behind apart others
    have cuts := argument.cuts writable (apart_cons (by decide)) (cuts_comma (cuts_space tail))
    simpa [renderEach, eachKinds, List.intercalate] using cuts
termination_by structural es => es

end

theorem Program.cuts_of_lexical {program : Program} (lexical : AllLexical program) :
    Cuts program.render.toList (allKinds program) := by
  rw [Program.render, String.toList_join]
  induction program with
  | nil => exact .done
  | cons statement statements ih =>
    obtain ⟨first, others⟩ := lexical
    have newline : Cuts ('\n' :: _) (allKinds statements) := .blank isBlank_newline (ih others)
    have cuts := statement.cuts first (apart_cons (by decide)) newline
    simpa [renderAll, allKinds] using cuts

theorem Program.cuts {program : Program} (writable : AllWritable program) :
    Cuts program.render.toList (allKinds program) :=
  Program.cuts_of_lexical (writable.imp (fun _ => Expr.NodeWritable.lexical) fun _ node => node)

end Monkey
