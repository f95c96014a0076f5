import Mathlib.Data.List.Nodup
import Monkey.Proofs.Numeral
import Monkey.Proofs.Text.Quoted
import Monkey.Run

/-!
What is printed of tokens. Each token takes one line, whatever characters its text holds, and no two
lists of tokens are printed alike.
-/
namespace Monkey
open Text (cut_unique quoted)

namespace Token

def Kind.all (text : String) : List Kind :=
  [.illegal text, .eof, .ident text, .int text, .string text, .assign, .plus, .minus, .bang,
   .asterisk, .slash, .equal, .notEqual, .greaterThan, .lessThan, .comma, .colon, .semicolon,
   .lparen, .rparen, .lbrace, .rbrace, .lbracket, .rbracket, .fnKeyword, .letKeyword, .trueKeyword,
   .falseKeyword, .ifKeyword, .elseKeyword, .returnKeyword]

theorem Kind.mem_all (kind : Kind) : kind ∈ all (kind.payload?.getD "") := by
  cases kind <;> simp [all, payload?]

def Kind.names : List String := (all "").map name

theorem Kind.map_name_all (text : String) : (all text).map name = names := rfl

theorem Kind.name_mem (kind : Kind) : kind.name ∈ names :=
  map_name_all _ ▸ List.mem_map_of_mem kind.mem_all

/-- A kind is known by its name and the text it carries. -/
theorem Kind.eq_of_name {kind other : Kind} (name : kind.name = other.name)
    (text : kind.payload? = other.payload?) : kind = other := by
  have different : names.Nodup := by decide +kernel
  rw [← map_name_all (other.payload?.getD "")] at different
  exact List.inj_on_of_nodup_map different (text ▸ kind.mem_all) other.mem_all name

theorem Kind.name_free (kind : Kind) : '(' ∉ kind.name.toList ∧ '\n' ∉ kind.name.toList := by
  have all : ∀ name ∈ names, '(' ∉ name.toList ∧ '\n' ∉ name.toList := by decide +kernel
  exact all _ kind.name_mem

theorem Kind.dump_none {kind : Kind} (plain : kind.payload? = none) : kind.dump = kind.name := by
  rw [dump, plain]

theorem Kind.dump_some {kind : Kind} {text : String} (carries : kind.payload? = some text) :
    kind.dump.toList = kind.name.toList ++ '(' :: ((quoted text).toList ++ [')']) := by
  rw [dump, carries]
  simp

theorem Kind.newline_notMem_dump (kind : Kind) : '\n' ∉ kind.dump.toList := by
  cases carries : kind.payload? with
  | none =>
    rw [dump_none carries]
    exact kind.name_free.2
  | some text => simp [dump_some carries, kind.name_free.2, Text.newline_notMem_quoted]

/-- Names have no parenthesis in them, so what is dumped says where the name ends. -/
theorem Kind.dump_injective {kind other : Kind} (same : kind.dump = other.dump) : kind = other := by
  have chars := congrArg String.toList same
  cases carries : kind.payload? with
  | none =>
    cases carries' : other.payload? with
    | none =>
      rw [dump_none carries, dump_none carries'] at same
      exact eq_of_name same (carries.trans carries'.symm)
    | some text =>
      rw [dump_none carries, dump_some carries'] at chars
      have free := kind.name_free.1
      rw [chars] at free
      simp at free
  | some text =>
    rw [dump_some carries] at chars
    cases carries' : other.payload? with
    | none =>
      rw [dump_none carries'] at chars
      have free := other.name_free.1
      rw [← chars] at free
      simp at free
    | some text' =>
      rw [dump_some carries'] at chars
      obtain ⟨name, behind⟩ := cut_unique kind.name_free.1 other.name_free.1 chars
      have text := Text.quoted_injective (String.toList_inj.1 (List.append_cancel_right behind))
      refine eq_of_name (String.toList_inj.1 name) ?_
      rw [carries, carries', text]

end Token

def tokenEntry (token : Token) : String :=
  Nat.repr token.start ++ ".." ++ Nat.repr token.stop ++ " " ++ token.kind.dump

theorem tokenEntry_chars (token : Token) : (tokenEntry token).toList =
    (Nat.repr token.start).toList ++ '.' :: '.' ::
      ((Nat.repr token.stop).toList ++ ' ' :: token.kind.dump.toList) := by
  simp [tokenEntry]

theorem notMem_repr {c : Char} (other : c.isDigit = false) (n : Nat) : c ∉ (Nat.repr n).toList := by
  intro here
  have digit := (Numeral.repr_digits n).2 c here
  rw [other] at digit
  contradiction

theorem newline_notMem_tokenEntry (token : Token) : '\n' ∉ (tokenEntry token).toList := by
  have numbers := notMem_repr (c := '\n') rfl
  have dump := token.kind.newline_notMem_dump
  simp only [tokenEntry_chars, List.mem_append, List.mem_cons, numbers, dump]
  decide

theorem tokenEntry_injective {one other : Token} (same : tokenEntry one = tokenEntry other) :
    one = other := by
  have chars := congrArg String.toList same
  rw [tokenEntry_chars, tokenEntry_chars] at chars
  have dots := notMem_repr (c := '.') rfl
  have spaces := notMem_repr (c := ' ') rfl
  obtain ⟨start, chars⟩ := cut_unique (dots _) (dots _) chars
  obtain ⟨stop, dump⟩ := cut_unique (spaces _) (spaces _) (List.cons.inj chars).2
  have start := Numeral.repr_injective (String.toList_inj.1 start)
  have stop := Numeral.repr_injective (String.toList_inj.1 stop)
  have kind := Token.Kind.dump_injective (String.toList_inj.1 dump)
  obtain ⟨kind', start', stop'⟩ := one
  simp only at start stop kind
  rw [start, stop, kind]

def unlines (lines : List String) : String := String.join (lines.map (· ++ "\n"))

theorem unlines_chars_cons (line : String) (lines : List String) :
    (unlines (line :: lines)).toList = line.toList ++ '\n' :: (unlines lines).toList := by
  simp [unlines, String.toList_join]

theorem count_unlines {lines : List String} (free : ∀ line ∈ lines, '\n' ∉ line.toList) :
    (unlines lines).toList.count '\n' = lines.length := by
  induction lines with
  | nil => rfl
  | cons line lines ih =>
    obtain ⟨first, others⟩ := List.forall_mem_cons.1 free
    rw [unlines_chars_cons, List.count_append, List.count_eq_zero.2 first, List.count_cons_self,
      ih others, Nat.zero_add, List.length_cons]

theorem unlines_unique {one other : List String} (free : ∀ line ∈ one, '\n' ∉ line.toList)
    (free' : ∀ line ∈ other, '\n' ∉ line.toList) (same : unlines one = unlines other) :
    one = other := by
  induction one generalizing other with
  | nil =>
    cases other with
    | nil => rfl
    | cons line' other =>
      have chars := congrArg String.toList same
      simp [unlines] at chars
  | cons line one ih =>
    have chars := congrArg String.toList same
    rw [unlines_chars_cons] at chars
    cases other with
    | nil => simp [unlines] at chars
    | cons line' other =>
      rw [unlines_chars_cons] at chars
      obtain ⟨first, others⟩ := List.forall_mem_cons.1 free
      obtain ⟨first', others'⟩ := List.forall_mem_cons.1 free'
      obtain ⟨head, behind⟩ := cut_unique first first' chars
      rw [String.toList_inj.1 head, ih others others' (String.toList_inj.1 behind)]

theorem execute_tokens (depth : Nat) (source : String) :
    execute depth source .tokens = .ok (unlines ((lex source).map tokenEntry)) := by
  rw [unlines, List.map_map]
  rfl

/-- Printing the tokens of a text always succeeds and gives one line for each token: as many ends of
lines as there are tokens, and none inside a line. What is printed of two texts is the same if and
only if their tokens are, with their texts and places. -/
theorem token_dump_is_faithful :
    (∀ depth source, ∃ lines, execute depth source .tokens = .ok (unlines lines) ∧
      (unlines lines).toList.count '\n' = (lex source).length ∧
      List.Forall₂ (fun line token => '\n' ∉ line.toList ∧ line ++ "\n" = tokenLine token)
        lines (lex source)) ∧
    ∀ depth depth' one other,
      execute depth one .tokens = execute depth' other .tokens ↔ lex one = lex other := by
  have free (tokens : List Token) : ∀ line ∈ tokens.map tokenEntry, '\n' ∉ line.toList := by
    intro line here
    obtain ⟨token, -, rfl⟩ := List.mem_map.1 here
    exact newline_notMem_tokenEntry token
  constructor
  · intro depth source
    refine ⟨(lex source).map tokenEntry, execute_tokens depth source, ?_, ?_⟩
    · rw [count_unlines (free _), List.length_map]
    · rw [List.forall₂_map_left_iff]
      exact List.forall₂_same.2 fun token _ => ⟨newline_notMem_tokenEntry token, rfl⟩
  · intro depth depth' one other
    rw [execute_tokens, execute_tokens]
    constructor
    · intro same
      have lines := unlines_unique (free _) (free _) (Except.ok.inj same)
      exact List.map_injective_iff.2 (fun _ _ => tokenEntry_injective) lines
    · intro same
      rw [same]

example : execute 0 "\"a\nb" .tokens = .ok "0..4 Illegal(\"\\\"a\\nb\")\n4..4 Eof\n" := by
  decide +kernel

end Monkey
