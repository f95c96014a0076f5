import Monkey.Parse.Parser

/-!
Lists of tokens as what readers read from. Every token of a list can be taken, the end marker among
them, so that what readers do is said by the constructors of lists.
-/
namespace Monkey

instance : Supply (List Token) where
  peek? := List.head?
  next?
    | [] => none
    | token :: rest => some (token, rest)
  take? kind
    | [] => none
    | token :: rest => if token.kind = kind then some rest else none
  size := List.length
  size_next? {tokens rest token} next := by
    cases tokens with
    | nil => contradiction
    | cons first others => cases next; exact Nat.lt_succ_self _
  size_take? {kind tokens rest} taken := by
    cases tokens with
    | nil => contradiction
    | cons first others =>
      simp only at taken
      split at taken
      · cases taken; exact Nat.lt_succ_self _
      · contradiction
  peek?_eq tokens := by cases tokens <;> rfl

namespace Supply

variable (token : Token) (rest : List Token)

@[simp]
theorem peek?_cons : peek? (token :: rest) = some token := rfl

@[simp]
theorem next?_cons : next? (token :: rest) = some (token, rest) := rfl

@[simp]
theorem advance_cons : advance (token :: rest) = rest := rfl

theorem peek?_ne_none {tokens : List Token} (nonempty : tokens ≠ []) : peek? tokens ≠ none :=
  mt List.head?_eq_none_iff.1 nonempty

end Supply

namespace Parse
open Supply

variable (token : Token) (rest tokens : List Token)

theorem take?_cons (kind : Token.Kind) :
    take? kind (token :: rest) = if token.kind = kind then some rest else none := rfl

theorem expect_cons (kind : Token.Kind) :
    expect kind (token :: rest) =
      if token.kind = kind then .ok () rest
      else .fail (.unexpectedToken (.token kind) token) rest := rfl

theorem skip_nil (place : Place) (depth : Nat) : skip place depth ([] : List Token) = [] :=
  skip_eq ..

theorem dropSemicolon_length_le : (dropSemicolon tokens).length ≤ tokens.length :=
  size_dropSemicolon_le tokens

theorem resumeAtTop_length_le (error : ParseError) (tokens : List Token) :
    (resumeAtTop error tokens).length ≤ tokens.length :=
  size_resumeAtTop_le error tokens

theorem expression_nil (level : Level) :
    expression level ([] : List Token) = .fail (.prematureEnd .expression) [] := expression_eq ..

theorem expression_cons (level : Level) :
    expression level (token :: rest) = (operand token rest).andThen (climb level) :=
  expression_eq ..

theorem leading_cons : leading (token :: rest) = operand token rest := rfl

theorem climb_nil (level : Level) (left : Expr) :
    climb level left ([] : List Token) = .ok left [] := climb_eq ..

theorem blockRest_nil : blockRest ([] : List Token) = .fail (.prematureEnd (.token .rbrace)) [] :=
  blockRest_eq []

theorem blockRest_close {token : Token} (closing : token.kind = .rbrace) :
    blockRest (token :: rest) = .ok [] rest := by
  rw [blockRest_eq]
  exact if_pos closing

theorem statements_nil : statements ([] : List Token) = ⟨[], [], []⟩ := statements_of_ended rfl

theorem statements_rest : (statements tokens).rest = [] :=
  List.head?_eq_none_iff.1 (peek?_statements_rest tokens)

end Parse

end Monkey
