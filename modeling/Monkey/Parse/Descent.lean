import Monkey.Parse.Level
import Monkey.Parse.Recovery

/-!
Reading expressions, statements and blocks by recursive descent. Operators are read by climbing: an
expression read at a level takes in the operators that bind more strongly than that level, and
leaves the others to its caller.

The readers here carry the bound that ends their recursion. Each call is on fewer tokens, or on the
same ones by a reader that stands lower in the order of the offsets given with the measure.
-/
namespace Monkey.Parse.Descent
open Supply

variable {σ : Type} [Supply σ]

def parameterList (tokens : σ) : Within tokens (List String) :=
  (Within.identifier tokens).andThen fun name rest _ =>
    match taken : take? .comma rest with
    | some more =>
      have shorter := size_take? taken
      ((parameterList more).map (name :: ·)).widen (by omega)
    | none => (Within.expect .rparen rest).map fun _ => [name]
termination_by size tokens

def parameters (tokens : σ) : Within tokens (List String) :=
  match taken : take? .rparen tokens with
  | some rest =>
    have shorter := size_take? taken
    .reach (.ok [] rest) (Nat.le_of_lt shorter)
  | none => parameterList tokens

mutual

def operand (token : Token) (tokens : σ) : Within tokens Expr :=
  match token.kind with
  | .ident name => .ok (.ident name)
  | .int digits =>
    match Numeral.read digits with
    | .ok value => .ok (.int value)
    | .error fault => .fail (.invalidInteger token fault)
  | .string contents => .ok (.string contents)
  | .trueKeyword => .ok (.bool true)
  | .falseKeyword => .ok (.bool false)
  | .bang => (expression .unary tokens).map (.unary .bang)
  | .minus => (expression .unary tokens).map (.unary .minus)
  | .lparen =>
    (expression .lowest tokens).andThen fun inner rest _ =>
    (Within.expect .rparen rest).map fun _ => inner
  | .ifKeyword =>
    (Within.expect .lparen tokens).andThen fun _ rest _ =>
    (expression .lowest rest).andThen fun test rest _ =>
    (Within.expect .rparen rest).andThen fun _ rest _ =>
    (block rest).andThen fun consequence rest _ =>
    match taken : take? .elseKeyword rest with
    | some more =>
      have shorter := size_take? taken
      ((block more).map fun alternative => .cond test consequence (some alternative)).widen
        (by omega)
    | none => .ok (.cond test consequence none)
  | .fnKeyword =>
    (Within.expect .lparen tokens).andThen fun _ rest _ =>
    (parameters rest).andThen fun names rest _ =>
    (block rest).map (.fn names)
  | _ => .fail (.noRule token)
termination_by 5 * size tokens + 2
decreasing_by all_goals omega

def expressionFrom (level : Level) (token : Token) (tokens : σ) : Within tokens Expr :=
  (operand token tokens).andThen fun left rest _ => climb level left rest
termination_by 5 * size tokens + 3
decreasing_by all_goals omega

def expression (level : Level) (tokens : σ) : Within tokens Expr :=
  match taken : next? tokens with
  | none => .fail (.prematureEnd .expression)
  | some (token, rest) =>
    have shorter := size_next? taken
    (expressionFrom level token rest).widen (Nat.le_of_lt shorter)
termination_by 5 * size tokens
decreasing_by all_goals omega

/-- Extends the expression `left` by what continues it more strongly than `level`. -/
def climb (level : Level) (left : Expr) (tokens : σ) : Within tokens Expr :=
  match seen : peek? tokens with
  | none => .ok left
  | some token =>
    match Continuation.ofKind? token.kind with
    | none => .ok left
    | some continuation =>
      have shorter := size_advance_lt seen
      if level < continuation.level then
        match continuation with
        | .operator op =>
          ((expression op.level (advance tokens)).andThen fun right rest _ =>
            climb level (.binary op left right) rest).widen (Nat.le_of_lt shorter)
        | .arguments =>
          ((arguments (advance tokens)).andThen fun given rest _ =>
            climb level (.call left given) rest).widen (Nat.le_of_lt shorter)
      else .ok left
termination_by 5 * size tokens
decreasing_by all_goals omega

def argumentList (tokens : σ) : Within tokens (List Expr) :=
  (expression .lowest tokens).andThen fun argument rest _ =>
    match taken : take? .comma rest with
    | some more =>
      have shorter := size_take? taken
      ((argumentList more).map (argument :: ·)).widen (by omega)
    | none => (Within.expect .rparen rest).map fun _ => [argument]
termination_by 5 * size tokens + 1
decreasing_by all_goals omega

def arguments (tokens : σ) : Within tokens (List Expr) :=
  match taken : take? .rparen tokens with
  | some rest =>
    have shorter := size_take? taken
    .reach (.ok [] rest) (Nat.le_of_lt shorter)
  | none => argumentList tokens
termination_by 5 * size tokens + 2
decreasing_by all_goals omega

def block (tokens : σ) : Within tokens Block :=
  (Within.expect .lbrace tokens).andThen fun _ rest _ => blockRest rest
termination_by 5 * size tokens + 1
decreasing_by all_goals omega

def blockRest (tokens : σ) : Within tokens Block :=
  match seen : peek? tokens with
  | none => .fail (.prematureEnd (.token .rbrace))
  | some token =>
    have shorter := size_advance_lt seen
    if token.kind = .rbrace then .reach (.ok [] (advance tokens)) (Nat.le_of_lt shorter)
    else
      match statementFrom token (advance tokens) with
      | ⟨⟨.ok statement, recorded, left⟩, bound⟩ =>
        have bound : size left ≤ size (advance tokens) := bound
        have dropped := size_dropSemicolon_le left
        (((blockRest (dropSemicolon left)).map (statement :: ·)).after recorded).widen (by omega)
      | ⟨⟨.error error, recorded, left⟩, bound⟩ =>
        have bound : size left < size tokens := Nat.lt_of_le_of_lt bound shorter
        match resumed : resumeInBlock error left with
        | .abandoned => .reach ⟨.error error, recorded, left⟩ (Nat.le_of_lt bound)
        | .closed => .reach ⟨.ok [], recorded ++ [error], left⟩ (Nat.le_of_lt bound)
        | .continues more =>
          have skipped := size_resumeInBlock_le resumed
          ((blockRest more).after (recorded ++ [error])).widen (by omega)
termination_by 5 * size tokens
decreasing_by all_goals omega

def statementFrom (token : Token) (tokens : σ) : Within tokens Stmt :=
  match token.kind with
  | .letKeyword =>
    (Within.identifier tokens).andThen fun name rest _ =>
    (Within.expect .assign rest).andThen fun _ rest _ =>
    (expression .lowest rest).map (.letStmt name)
  | .returnKeyword => (expression .lowest tokens).map .returnStmt
  | _ => (expressionFrom .lowest token tokens).map .exprStmt
termination_by 5 * size tokens + 4
decreasing_by all_goals omega

end

end Monkey.Parse.Descent
