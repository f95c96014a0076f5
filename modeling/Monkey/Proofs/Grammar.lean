import Monkey.Numeral
import Monkey.Parse.Level

/-!
The language as a grammar over kinds of token. Expressions are stratified by how strongly their
operators bind. Nothing here mentions reading: a derivation relates a list of kinds to a tree.
-/
namespace Monkey

def Level.tighter : Level → Level
  | .lowest => .equality
  | .equality => .comparison
  | .comparison => .sum
  | .sum => .product
  | .product => .unary
  | .unary => .call
  | .call => .call

theorem Level.le_tighter (level : Level) : level ≤ level.tighter := by cases level <;> decide

theorem Level.lt_of_le_of_lt {a b c : Level} (ab : a ≤ b) (bc : b < c) : a < c :=
  Nat.lt_of_le_of_lt ab bc

theorem Level.lt_of_lt_of_le {a b c : Level} (ab : a < b) (bc : b ≤ c) : a < c :=
  Nat.lt_of_lt_of_le ab bc

theorem Level.not_lt {a b : Level} : ¬ a < b ↔ b ≤ a := Nat.not_lt

open Token (Kind)

def UnaryOp.kind : UnaryOp → Kind
  | .minus => .minus
  | .bang => .bang

namespace Grammar

def operators : List (Kind × BinaryOp × Level) :=
  [(.equal, .equal, .equality), (.notEqual, .notEqual, .equality),
    (.lessThan, .lessThan, .comparison), (.greaterThan, .greaterThan, .comparison),
    (.plus, .plus, .sum), (.minus, .minus, .sum),
    (.asterisk, .multiply, .product), (.slash, .divide, .product)]

/-- The kinds that spell an operator are those of the table, at the levels of the table. -/
theorem mem_operators {kind : Kind} {op : BinaryOp} {level : Level} :
    (kind, op, level) ∈ operators ↔ BinaryOp.ofKind? kind = some op ∧ op.level = level := by
  constructor
  · intro listed
    simp only [operators, List.mem_cons, List.not_mem_nil, or_false, Prod.mk.injEq] at listed
    rcases listed with ⟨rfl, rfl, rfl⟩ | ⟨rfl, rfl, rfl⟩ | ⟨rfl, rfl, rfl⟩ | ⟨rfl, rfl, rfl⟩ |
      ⟨rfl, rfl, rfl⟩ | ⟨rfl, rfl, rfl⟩ | ⟨rfl, rfl, rfl⟩ | ⟨rfl, rfl, rfl⟩ <;> exact ⟨rfl, rfl⟩
  · rintro ⟨spelled, rfl⟩
    cases kind <;> cases spelled <;> decide

/-- The first kind would carry an expression on that was read at `level`. -/
def Continues (level : Level) : List Kind → Prop
  | [] => False
  | kind :: _ => ∃ continuation, Continuation.ofKind? kind = some continuation ∧
      level < continuation.level

def Parameters (kinds : List Kind) (names : List String) : Prop :=
  kinds = (names.map Kind.ident).intersperse .comma

mutual

/-- Expressions in which no operator outside parentheses binds more loosely than `level`. At `unary`
they are prefix operations and calls, at `call` only calls and what needs no parentheses. -/
inductive Expression : Level → List Kind → Expr → Prop
  | tighter {level : Level} {kinds : List Kind} {e : Expr}
      (stronger : Expression level.tighter kinds e) : Expression level kinds e
  | operation {kind : Kind} {op : BinaryOp} {us vs : List Kind} {left right : Expr}
      (spelled : BinaryOp.ofKind? kind = some op) (first : Expression op.level us left)
      (second : Expression op.level.tighter vs right) :
      Expression op.level (us ++ kind :: vs) (.binary op left right)
  | minus {kinds : List Kind} {e : Expr} (inner : Expression .unary kinds e) :
      Expression .unary (.minus :: kinds) (.unary .minus e)
  | bang {kinds : List Kind} {e : Expr} (inner : Expression .unary kinds e) :
      Expression .unary (.bang :: kinds) (.unary .bang e)
  | call {us vs : List Kind} {callee : Expr} {given : List Expr}
      (function : Expression .call us callee) (arguments : Arguments vs given) :
      Expression .call (us ++ .lparen :: (vs ++ [.rparen])) (.call callee given)
  | primary {kinds : List Kind} {e : Expr} (alone : Primary kinds e) : Expression .call kinds e

inductive Primary : List Kind → Expr → Prop
  | ident (name : String) : Primary [.ident name] (.ident name)
  | int {digits : String} {value : Int64} (denotes : Numeral.read digits = .ok value) :
      Primary [.int digits] (.int value)
  | string (contents : String) : Primary [.string contents] (.string contents)
  | true : Primary [.trueKeyword] (.bool true)
  | false : Primary [.falseKeyword] (.bool false)
  | group {kinds : List Kind} {e : Expr} (inner : Expression .lowest kinds e) :
      Primary (.lparen :: (kinds ++ [.rparen])) e
  | cond {us vs : List Kind} {test : Expr} {consequence : Monkey.Block}
      (condition : Expression .lowest us test) (branch : Block vs consequence) :
      Primary (.ifKeyword :: .lparen :: (us ++ .rparen :: vs)) (.cond test consequence none)
  | condElse {us vs ws : List Kind} {test : Expr} {consequence alternative : Monkey.Block}
      (condition : Expression .lowest us test) (branch : Block vs consequence)
      (other : Block ws alternative) :
      Primary (.ifKeyword :: .lparen :: (us ++ .rparen :: (vs ++ .elseKeyword :: ws)))
        (.cond test consequence (some alternative))
  | fn {us vs : List Kind} {names : List String} {code : Monkey.Block}
      (parameters : Parameters us names) (body : Block vs code) :
      Primary (.fnKeyword :: .lparen :: (us ++ .rparen :: vs)) (.fn names code)

inductive Arguments : List Kind → List Expr → Prop
  | none : Arguments [] []
  | some {kinds : List Kind} {given : List Expr} (list : ArgumentList kinds given) :
      Arguments kinds given

inductive ArgumentList : List Kind → List Expr → Prop
  | last {kinds : List Kind} {e : Expr} (argument : Expression .lowest kinds e) :
      ArgumentList kinds [e]
  | more {us vs : List Kind} {e : Expr} {given : List Expr}
      (argument : Expression .lowest us e) (others : ArgumentList vs given) :
      ArgumentList (us ++ .comma :: vs) (e :: given)

inductive Block : List Kind → Monkey.Block → Prop
  | braces {kinds : List Kind} {code : List Stmt} (inner : Statements kinds code) :
      Block (.lbrace :: (kinds ++ [.rbrace])) code

inductive Statement : List Kind → Stmt → Prop
  | letStmt (name : String) {kinds : List Kind} {e : Expr} (value : Expression .lowest kinds e) :
      Statement (.letKeyword :: .ident name :: .assign :: kinds) (.letStmt name e)
  | returnStmt {kinds : List Kind} {e : Expr} (value : Expression .lowest kinds e) :
      Statement (.returnKeyword :: kinds) (.returnStmt e)
  | exprStmt {kinds : List Kind} {e : Expr} (value : Expression .lowest kinds e) :
      Statement kinds (.exprStmt e)

/-- What stands in a block, and a whole program. A semicolon may follow each statement. It must
stand where the next token would otherwise carry the statement's expression on. -/
inductive Statements : List Kind → List Stmt → Prop
  | nil : Statements [] []
  | semicolon {us vs : List Kind} {statement : Stmt} {code : List Stmt}
      (first : Statement us statement) (others : Statements vs code) :
      Statements (us ++ .semicolon :: vs) (statement :: code)
  | bare {us vs : List Kind} {statement : Stmt} {code : List Stmt}
      (first : Statement us statement) (ends : ¬ Continues .lowest vs)
      (others : Statements vs code) : Statements (us ++ vs) (statement :: code)

end

theorem Expression.prefixed (op : UnaryOp) {kinds : List Kind} {e : Expr}
    (inner : Expression .unary kinds e) :
    Expression .unary (op.kind :: kinds) (.unary op e) := by
  cases op with
  | minus => exact .minus inner
  | bang => exact .bang inner

theorem parameters_nil : Parameters [] [] := rfl

theorem not_continues_nil (level : Level) : ¬ Continues level [] := id

theorem continues_mono {weak strong : Level} {kinds : List Kind} (le : weak ≤ strong)
    (continues : Continues strong kinds) : Continues weak kinds := by
  cases kinds with
  | nil => exact continues
  | cons kind rest =>
    obtain ⟨continuation, spelled, lt⟩ := continues
    exact ⟨continuation, spelled, Level.lt_of_le_of_lt le lt⟩

theorem continues_cons_iff {level : Level} {kind : Kind} {rest : List Kind} :
    Continues level (kind :: rest) ↔
      (∃ op stronger, (kind, op, stronger) ∈ operators ∧ level < stronger) ∨
        kind = .lparen ∧ level < .call := by
  constructor
  · rintro ⟨continuation, spelled, lt⟩
    by_cases paren : kind = .lparen
    · simp only [Continuation.ofKind?, paren, if_true, Option.some.injEq] at spelled
      subst spelled
      exact .inr ⟨paren, lt⟩
    · simp only [Continuation.ofKind?, paren, if_false, Option.map_eq_some_iff] at spelled
      obtain ⟨op, spelled, rfl⟩ := spelled
      exact .inl ⟨op, op.level, mem_operators.2 ⟨spelled, rfl⟩, lt⟩
  · rintro (⟨op, stronger, listed, lt⟩ | ⟨rfl, lt⟩)
    · obtain ⟨spelled, rfl⟩ := mem_operators.1 listed
      have paren : kind ≠ .lparen := by
        rintro rfl
        contradiction
      exact ⟨.operator op, by simp [Continuation.ofKind?, paren, spelled], lt⟩
    · exact ⟨.arguments, rfl, lt⟩

theorem continues_cons {level : Level} {kind : Kind} {rest : List Kind}
    (continues : Continues level (kind :: rest)) :
    (∃ op, BinaryOp.ofKind? kind = some op ∧ level < op.level) ∨
      kind = .lparen ∧ level < .call := by
  rcases continues_cons_iff.1 continues with ⟨op, stronger, listed, lt⟩ | called
  · obtain ⟨spelled, rfl⟩ := mem_operators.1 listed
    exact .inl ⟨op, spelled, lt⟩
  · exact .inr called

theorem not_continues_call (kinds : List Kind) : ¬ Continues .call kinds := by
  cases kinds with
  | nil => exact id
  | cons kind rest =>
    rintro ⟨continuation, -, lt⟩
    cases continuation with
    | operator op => cases op <;> exact absurd lt (by decide)
    | arguments => exact absurd lt (by decide)

def StartsExpression : Kind → Prop
  | .ident _ | .int _ | .string _ | .trueKeyword | .falseKeyword | .minus | .bang | .lparen
  | .ifKeyword | .fnKeyword => True
  | _ => False

def StartsStatement : Kind → Prop
  | .letKeyword | .returnKeyword => True
  | kind => StartsExpression kind

mutual

theorem Expression.starts {level : Level} {kinds : List Kind} {e : Expr} :
    Expression level kinds e → ∃ kind rest, kinds = kind :: rest ∧ StartsExpression kind
  | .tighter stronger => stronger.starts
  | .operation _ first _ => by
    obtain ⟨kind, rest, rfl, starts⟩ := first.starts
    exact ⟨kind, _, rfl, starts⟩
  | .minus _ => ⟨_, _, rfl, trivial⟩
  | .bang _ => ⟨_, _, rfl, trivial⟩
  | .call function _ => by
    obtain ⟨kind, rest, rfl, starts⟩ := function.starts
    exact ⟨kind, _, rfl, starts⟩
  | .primary alone => alone.starts

theorem Primary.starts {kinds : List Kind} {e : Expr} :
    Primary kinds e → ∃ kind rest, kinds = kind :: rest ∧ StartsExpression kind
  | .ident _ => ⟨_, _, rfl, trivial⟩
  | .int _ => ⟨_, _, rfl, trivial⟩
  | .string _ => ⟨_, _, rfl, trivial⟩
  | .true => ⟨_, _, rfl, trivial⟩
  | .false => ⟨_, _, rfl, trivial⟩
  | .group _ => ⟨_, _, rfl, trivial⟩
  | .cond _ _ => ⟨_, _, rfl, trivial⟩
  | .condElse _ _ _ => ⟨_, _, rfl, trivial⟩
  | .fn _ _ => ⟨_, _, rfl, trivial⟩

end

theorem StartsExpression.statement {kind : Kind} (starts : StartsExpression kind) :
    StartsStatement kind := by
  cases kind <;> first | exact starts | trivial

theorem Statement.starts {kinds : List Kind} {statement : Stmt}
    (spelled : Statement kinds statement) :
    ∃ kind rest, kinds = kind :: rest ∧ StartsStatement kind := by
  cases spelled with
  | letStmt name value => exact ⟨_, _, rfl, trivial⟩
  | returnStmt value => exact ⟨_, _, rfl, trivial⟩
  | exprStmt value =>
    obtain ⟨kind, rest, rfl, starts⟩ := value.starts
    exact ⟨kind, rest, rfl, starts.statement⟩

theorem Parameters.eof_notMem {kinds : List Kind} {names : List String}
    (spelled : Parameters kinds names) : .eof ∉ kinds := by
  rw [spelled]
  clear spelled
  induction names with
  | nil => simp
  | cons name names ih => cases names <;> simp_all

theorem operator_ne_eof {kind : Kind} {op : BinaryOp} (spelled : BinaryOp.ofKind? kind = some op) :
    .eof ≠ kind := by
  rintro rfl
  contradiction

mutual

theorem Expression.eof_notMem {level : Level} {kinds : List Kind} {e : Expr} :
    Expression level kinds e → .eof ∉ kinds
  | .tighter stronger => stronger.eof_notMem
  | .operation spelled first second => by
    simp [first.eof_notMem, operator_ne_eof spelled, second.eof_notMem]
  | .minus inner => by simp [inner.eof_notMem]
  | .bang inner => by simp [inner.eof_notMem]
  | .call function arguments => by simp [function.eof_notMem, arguments.eof_notMem]
  | .primary alone => alone.eof_notMem

theorem Primary.eof_notMem {kinds : List Kind} {e : Expr} : Primary kinds e → .eof ∉ kinds
  | .ident _ => by simp
  | .int _ => by simp
  | .string _ => by simp
  | .true => by simp
  | .false => by simp
  | .group inner => by simp [inner.eof_notMem]
  | .cond condition branch => by simp [condition.eof_notMem, branch.eof_notMem]
  | .condElse condition branch other => by
    simp [condition.eof_notMem, branch.eof_notMem, other.eof_notMem]
  | .fn parameters body => by simp [parameters.eof_notMem, body.eof_notMem]

theorem Arguments.eof_notMem {kinds : List Kind} {given : List Expr} :
    Arguments kinds given → .eof ∉ kinds
  | .none => by simp
  | .some list => list.eof_notMem

theorem ArgumentList.eof_notMem {kinds : List Kind} {given : List Expr} :
    ArgumentList kinds given → .eof ∉ kinds
  | .last argument => argument.eof_notMem
  | .more argument others => by simp [argument.eof_notMem, others.eof_notMem]

theorem Block.eof_notMem {kinds : List Kind} {code : List Stmt} : Block kinds code → .eof ∉ kinds
  | .braces inner => by simp [inner.eof_notMem]

theorem Statement.eof_notMem {kinds : List Kind} {statement : Stmt} :
    Statement kinds statement → .eof ∉ kinds
  | .letStmt _ value => by simp [value.eof_notMem]
  | .returnStmt value => by simp [value.eof_notMem]
  | .exprStmt value => value.eof_notMem

theorem Statements.eof_notMem {kinds : List Kind} {code : List Stmt} :
    Statements kinds code → .eof ∉ kinds
  | .nil => by simp
  | .semicolon first others => by simp [first.eof_notMem, others.eof_notMem]
  | .bare first _ others => by simp [first.eof_notMem, others.eof_notMem]

end

end Grammar

end Monkey
