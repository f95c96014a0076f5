import Monkey.Proofs.Parse.Acceptance
import Monkey.Proofs.Render.Spelling

/-!
Programs that come from a text. Their names, numbers and strings are taken from tokens, and
therefore they are writable.
-/
namespace Monkey
open Token (Kind Cuts)

/-- Parsing a text is deriving the kinds that it is cut into. -/
theorem parse_eq_ok_iff {source : String} {kinds : List Kind} {program : Program}
    (cuts : Cuts source.toList kinds) :
    parse source = .ok program ↔ Grammar.Statements kinds program := by
  have free : ∀ kind ∈ kinds, decide (kind ≠ .eof) = true := by
    intro kind here
    rw [decide_eq_true_eq]
    rintro rfl
    exact cuts.lexed _ here
  have readable : (Parser.ofTokens (lex source)).readable.map Token.kind = kinds := by
    have whole : (lex source).map Token.kind = kinds ++ [.eof] := cuts.drain 0
    have spelled : ((lex source).map Token.kind).takeWhile (fun kind => decide (kind ≠ .eof)) =
        (Parser.ofTokens (lex source)).readable.map Token.kind := List.takeWhile_map
    rw [← spelled, whole, List.takeWhile_append_of_pos free]
    simp
  rw [Parse.parse_eq_ok_iff_reading, Parse.statements_eq_iff, readable]

namespace Grammar

theorem ident_mem_intersperse {name : String} {names : List String} (here : name ∈ names) :
    Kind.ident name ∈ (names.map Kind.ident).intersperse .comma := by
  induction names with
  | nil => contradiction
  | cons first names ih =>
    cases names with
    | nil => simpa using here
    | cons second names =>
      rcases List.mem_cons.1 here with rfl | here
      · exact List.mem_cons_self
      · exact List.mem_cons_of_mem _ (List.mem_cons_of_mem _ (ih here))

theorem Parameters.names {kinds : List Kind} {names : List String}
    (spelled : Parameters kinds names) (lexed : ∀ kind ∈ kinds, kind.Lexed) :
    ∀ name ∈ names, Token.IsName name := by
  intro name here
  apply lexed (.ident name)
  rw [spelled]
  exact ident_mem_intersperse here

mutual

theorem Expression.writable {level : Level} {kinds : List Kind} {e : Expr} :
    Expression level kinds e → (∀ kind ∈ kinds, kind.Lexed) → e.Writable
  | .tighter stronger, lexed => stronger.writable lexed
  | .operation _ first second, lexed => by
    simp only [List.forall_mem_append, List.forall_mem_cons] at lexed
    obtain ⟨us, -, vs⟩ := lexed
    exact ⟨trivial, first.writable us, second.writable vs⟩
  | .minus inner, lexed => ⟨trivial, inner.writable (List.forall_mem_cons.1 lexed).2⟩
  | .bang inner, lexed => ⟨trivial, inner.writable (List.forall_mem_cons.1 lexed).2⟩
  | .call function arguments, lexed => by
    simp only [List.forall_mem_append, List.forall_mem_cons] at lexed
    obtain ⟨us, -, vs, -⟩ := lexed
    exact ⟨trivial, function.writable us, arguments.writable vs⟩
  | .primary alone, lexed => alone.writable lexed

theorem Primary.writable {kinds : List Kind} {e : Expr} :
    Primary kinds e → (∀ kind ∈ kinds, kind.Lexed) → e.Writable
  | .ident name, lexed => lexed (.ident name) List.mem_cons_self
  | @Primary.int digits _ denotes, lexed => by
    obtain ⟨nonempty, all⟩ := lexed (.int digits) List.mem_cons_self
    exact Numeral.nonneg_of_digits nonempty all denotes
  | .string contents, lexed => lexed (.string contents) List.mem_cons_self
  | .true, _ => trivial
  | .false, _ => trivial
  | .group inner, lexed => by
    simp only [List.forall_mem_append, List.forall_mem_cons] at lexed
    obtain ⟨-, us, -⟩ := lexed
    exact inner.writable us
  | .cond condition branch, lexed => by
    simp only [List.forall_mem_append, List.forall_mem_cons] at lexed
    obtain ⟨-, -, us, -, vs⟩ := lexed
    exact ⟨trivial, condition.writable us, branch.writable vs⟩
  | .condElse condition branch other, lexed => by
    simp only [List.forall_mem_append, List.forall_mem_cons] at lexed
    obtain ⟨-, -, us, -, vs, -, ws⟩ := lexed
    exact ⟨trivial, condition.writable us, branch.writable vs, other.writable ws⟩
  | .fn parameters body, lexed => by
    simp only [List.forall_mem_append, List.forall_mem_cons] at lexed
    obtain ⟨-, -, us, -, vs⟩ := lexed
    exact ⟨parameters.names us, body.writable vs⟩

theorem Arguments.writable {kinds : List Kind} {given : List Expr} :
    Arguments kinds given → (∀ kind ∈ kinds, kind.Lexed) → EachWritable given
  | .none, _ => trivial
  | .some list, lexed => list.writable lexed

theorem ArgumentList.writable {kinds : List Kind} {given : List Expr} :
    ArgumentList kinds given → (∀ kind ∈ kinds, kind.Lexed) → EachWritable given
  | .last argument, lexed => ⟨argument.writable lexed, trivial⟩
  | .more argument others, lexed => by
    simp only [List.forall_mem_append, List.forall_mem_cons] at lexed
    obtain ⟨us, -, vs⟩ := lexed
    exact ⟨argument.writable us, others.writable vs⟩

theorem Block.writable {kinds : List Kind} {code : List Stmt} :
    Block kinds code → (∀ kind ∈ kinds, kind.Lexed) → AllWritable code
  | .braces inner, lexed => by
    simp only [List.forall_mem_append, List.forall_mem_cons] at lexed
    obtain ⟨-, us, -⟩ := lexed
    exact inner.writable us

theorem Statement.writable {kinds : List Kind} {statement : Stmt} :
    Statement kinds statement → (∀ kind ∈ kinds, kind.Lexed) → statement.Writable
  | .letStmt name value, lexed => by
    simp only [List.forall_mem_cons] at lexed
    obtain ⟨-, named, -, us⟩ := lexed
    exact ⟨named, value.writable us⟩
  | .returnStmt value, lexed => ⟨trivial, value.writable (List.forall_mem_cons.1 lexed).2⟩
  | .exprStmt value, lexed => ⟨trivial, value.writable lexed⟩

theorem Statements.writable {kinds : List Kind} {code : List Stmt} :
    Statements kinds code → (∀ kind ∈ kinds, kind.Lexed) → AllWritable code
  | .nil, _ => trivial
  | .semicolon first others, lexed => by
    simp only [List.forall_mem_append, List.forall_mem_cons] at lexed
    obtain ⟨us, -, vs⟩ := lexed
    exact ⟨first.writable us, others.writable vs⟩
  | .bare first _ others, lexed => by
    obtain ⟨us, vs⟩ := List.forall_mem_append.1 lexed
    exact ⟨first.writable us, others.writable vs⟩

end

end Grammar

theorem writable_of_parse {source : String} {program : Program}
    (parsed : parse source = .ok program) : AllWritable program := by
  obtain ⟨kinds, cuts⟩ := Token.exists_cuts source.toList
  exact ((parse_eq_ok_iff cuts).1 parsed).writable cuts.lexed

end Monkey
