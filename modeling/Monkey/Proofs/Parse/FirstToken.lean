import Monkey.Proofs.Grammar
import Monkey.Proofs.Parse.TokenList

/-!
Readers by the first token. Each equation here says what a reader does when the token in front is of
a certain kind, so that the readers need not be opened again.
-/
namespace Monkey.Parse
open Grammar
open Supply

def Faces (p : Token.Kind → Prop) (tokens : List Token) : Prop :=
  ∃ token, tokens.head? = some token ∧ p token.kind

theorem faces_cons {p : Token.Kind → Prop} {token : Token} {rest : List Token} :
    Faces p (token :: rest) ↔ p token.kind := by simp [Faces]

theorem not_faces_nil (p : Token.Kind → Prop) : ¬ Faces p [] := by simp [Faces]

theorem Faces.congr {p : Token.Kind → Prop} {tokens more : List Token} (faces : Faces p tokens)
    (head : more.head? = tokens.head?) : Faces p more := by
  rw [Faces, head]
  exact faces

theorem Faces.imp {p q : Token.Kind → Prop} {tokens : List Token} (faces : Faces p tokens)
    (imp : ∀ kind, p kind → q kind) : Faces q tokens := by
  obtain ⟨token, head, holds⟩ := faces
  exact ⟨token, head, imp _ holds⟩

theorem Faces.not {p q : Token.Kind → Prop} {tokens : List Token} (faces : Faces p tokens)
    (other : Faces q tokens) (disjoint : ∀ kind, p kind → ¬ q kind) : False := by
  obtain ⟨token, head, holds⟩ := faces
  obtain ⟨_, same, holds'⟩ := other
  rw [head] at same
  cases same
  exact disjoint _ holds holds'

theorem head?_append_congr {front us vs : List Token} (same : us.head? = vs.head?) :
    (front ++ us).head? = (front ++ vs).head? := by
  cases front with
  | nil => exact same
  | cons token front => rfl

theorem split_at_kind {tokens : List Token} {us vs : List Token.Kind} {kind : Token.Kind}
    (spelled : tokens.map Token.kind = us ++ kind :: vs) :
    ∃ front token rest, tokens = front ++ token :: rest ∧ front.map Token.kind = us ∧
      token.kind = kind ∧ rest.map Token.kind = vs := by
  obtain ⟨front, tail, rfl, frontKinds, spelled⟩ := List.map_eq_append_iff.1 spelled
  obtain ⟨token, rest, rfl, same, restKinds⟩ := List.map_eq_cons_iff.1 spelled
  exact ⟨front, token, rest, rfl, frontKinds, same, restKinds⟩

theorem split_last_kind {tokens : List Token} {us : List Token.Kind} {kind : Token.Kind}
    (spelled : tokens.map Token.kind = us ++ [kind]) :
    ∃ front last, tokens = front ++ [last] ∧ front.map Token.kind = us ∧ last.kind = kind := by
  obtain ⟨front, last, rest, rfl, frontKinds, same, restKinds⟩ := split_at_kind spelled
  rw [List.map_eq_nil_iff.1 restKinds]
  exact ⟨front, last, rfl, frontKinds, same⟩

abbrev FacesKeyword : List Token → Prop :=
  Faces fun kind => kind = .letKeyword ∨ kind = .returnKeyword

abbrev FacesStatement : List Token → Prop := Faces (· ≠ .rbrace)

theorem operand_unary {token : Token} {op : UnaryOp} (kind : token.kind = op.kind)
    (rest : List Token) : operand token rest = (expression .unary rest).map (.unary op) := by
  rw [operand_eq]
  cases op with
  | minus => rw [show token.kind = .minus from kind]
  | bang => rw [show token.kind = .bang from kind]

/-- A token begins an operand, or it is refused whatever follows it. -/
theorem operand_begins_or_refuses (token : Token) :
    (StartsExpression token.kind ∧
        ∀ digits, token.kind = .int digits → ∃ value, Numeral.read digits = .ok value) ∨
      ∃ error, error.token? = some token ∧
        ∀ rest : List Token, operand token rest = .fail error rest := by
  by_cases starts : StartsExpression token.kind
  · by_cases readable :
        ∀ digits, token.kind = .int digits → ∃ value, Numeral.read digits = .ok value
    · exact .inl ⟨starts, readable⟩
    · simp only [Classical.not_forall, not_exists] at readable
      obtain ⟨digits, kind, unreadable⟩ := readable
      cases read : Numeral.read digits with
      | ok value => exact absurd read (unreadable value)
      | error fault =>
        have refused (rest : List Token) :
            operand token rest = .fail (.invalidInteger token fault) rest := by
          simp only [operand_eq, kind, read]
        exact .inr ⟨_, rfl, refused⟩
  · have refused (rest : List Token) : operand token rest = .fail (.noRule token) rest := by
      rw [operand_eq]
      cases kind : token.kind <;> simp [kind, StartsExpression] at starts ⊢
    exact .inr ⟨_, rfl, refused⟩

theorem continues_congr {level : Level} {tokens more : List Token}
    (head : more.head? = tokens.head?) (continues : Continues level (more.map Token.kind)) :
    Continues level (tokens.map Token.kind) := by
  cases more with
  | nil => exact absurd continues (not_continues_nil level)
  | cons token more =>
    cases tokens with
    | nil => contradiction
    | cons _ tokens => cases head; exact continues

theorem operator_ne_lparen {kind : Token.Kind} {op : BinaryOp}
    (spelled : BinaryOp.ofKind? kind = some op) : kind ≠ .lparen := by
  rintro rfl
  contradiction

theorem climb_of_not_continues {level : Level} {left : Expr} {tokens : List Token}
    (stops : ¬ Continues level (tokens.map Token.kind)) :
    climb level left tokens = .ok left tokens := by
  cases tokens with
  | nil => exact climb_nil level left
  | cons token rest =>
    rw [climb_eq]
    simp only [peek?_cons]
    cases spelled : Continuation.ofKind? token.kind with
    | none => rfl
    | some continuation =>
      simp only
      rw [if_neg fun stronger => stops ⟨continuation, spelled, stronger⟩]

theorem climb_operator {level : Level} {left : Expr} {token : Token} {rest : List Token}
    {op : BinaryOp} (spelled : BinaryOp.ofKind? token.kind = some op)
    (stronger : level < op.level) :
    climb level left (token :: rest) =
      (expression op.level rest).andThen fun right => climb level (.binary op left right) := by
  have continues : Continuation.ofKind? token.kind = some (.operator op) := by
    simp [Continuation.ofKind?, operator_ne_lparen spelled, spelled]
  rw [climb_eq]
  simp only [peek?_cons, advance_cons, continues, Continuation.level, stronger, if_true]

theorem climb_arguments {level : Level} {left : Expr} {token : Token} {rest : List Token}
    (kind : token.kind = .lparen) (stronger : level < .call) :
    climb level left (token :: rest) =
      (arguments rest).andThen fun given => climb level (.call left given) := by
  rw [climb_eq]
  simp only [peek?_cons, advance_cons, Continuation.ofKind?, kind, if_true, Continuation.level,
    stronger]

theorem identifier_ident {token : Token} {name : String} (kind : token.kind = .ident name)
    (rest : List Token) : identifier (token :: rest) = .ok name rest := by
  simp only [identifier, next?_cons, kind]

theorem expect_found {kind : Token.Kind} {token : Token} (found : token.kind = kind)
    (rest : List Token) : expect kind (token :: rest) = .ok () rest := by
  rw [expect_cons, if_pos found]

theorem take?_found {kind : Token.Kind} {token : Token} (found : token.kind = kind)
    (rest : List Token) : take? kind (token :: rest) = some rest := by
  rw [take?_cons, if_pos found]

theorem take?_other {kind : Token.Kind} {tokens : List Token} (other : ¬ Faces (· = kind) tokens) :
    take? kind tokens = none := by
  cases tokens with
  | nil => rfl
  | cons token rest =>
    rw [take?_cons, if_neg fun same => other (faces_cons.2 same)]

theorem dropSemicolon_other {tokens : List Token} (other : ¬ Faces (· = .semicolon) tokens) :
    dropSemicolon tokens = tokens := by
  rw [dropSemicolon, take?_other other, Option.getD_none]

theorem dropSemicolon_found {token : Token} (kind : token.kind = .semicolon) (rest : List Token) :
    dropSemicolon (token :: rest) = rest := by
  rw [dropSemicolon, take?_found kind, Option.getD_some]

theorem ifTaken_found {α : Type} {kind : Token.Kind} {token : Token} (found : token.kind = kind)
    (rest : List Token) {behind other : List Token → Step (List Token) α} :
    ifTaken kind behind other (token :: rest) = behind rest :=
  ifTaken_of_some (take?_found found rest) ..

theorem ifTaken_other {α : Type} {kind : Token.Kind} {tokens : List Token}
    (absent : ¬ Faces (· = kind) tokens) {behind other : List Token → Step (List Token) α} :
    ifTaken kind behind other tokens = other tokens :=
  ifTaken_of_none (take?_other absent) ..

theorem take?_eq_none_congr {kind : Token.Kind} {tokens more : List Token}
    (head : more.head? = tokens.head?) (absent : take? kind tokens = none) :
    take? kind more = none := by
  cases more with
  | nil => rfl
  | cons token more =>
    cases tokens with
    | nil => contradiction
    | cons _ tokens =>
      cases head
      rw [take?_cons] at absent ⊢
      split <;> simp_all

theorem eq_cons_of_take? {kind : Token.Kind} {tokens rest : List Token}
    (taken : take? kind tokens = some rest) :
    ∃ token, tokens = token :: rest ∧ token.kind = kind := by
  cases tokens with
  | nil => contradiction
  | cons token tail =>
    rw [take?_cons] at taken
    split at taken
    · next same => cases taken; exact ⟨token, rfl, same⟩
    · contradiction

theorem statement_eq_expression {tokens : List Token} (plain : ¬ FacesKeyword tokens) :
    statement tokens = (expression .lowest tokens).map .exprStmt := by
  cases tokens with
  | nil =>
    rw [expression_nil]
    rfl
  | cons token rest =>
    have plain : ¬ (token.kind = .letKeyword ∨ token.kind = .returnKeyword) :=
      fun kind => plain (faces_cons.2 kind)
    rw [expression_cons]
    show statementFrom token rest = _
    rw [statementFrom_eq]
    cases kind : token.kind <;> simp_all

theorem statement_let {token : Token} (kind : token.kind = .letKeyword) (rest : List Token) :
    statement (token :: rest) = (identifier rest).andThen fun name rest =>
      (expect .assign rest).andThen fun _ rest =>
      (expression .lowest rest).map (.letStmt name) := by
  show statementFrom token rest = _
  rw [statementFrom_eq, kind]

theorem statement_return {token : Token} (kind : token.kind = .returnKeyword) (rest : List Token) :
    statement (token :: rest) = (expression .lowest rest).map .returnStmt := by
  show statementFrom token rest = _
  rw [statementFrom_eq, kind]

theorem statement_rest_length_lt {tokens : List Token} (nonempty : tokens ≠ []) :
    (statement tokens).rest.length < tokens.length := by
  cases tokens with
  | nil => contradiction
  | cons token rest => exact size_statement_rest_lt (peek?_cons token rest)

theorem blockRest_of_ok {tokens left : List Token} {recorded : List ParseError} {value : Stmt}
    (faces : FacesStatement tokens) (step : statement tokens = ⟨.ok value, recorded, left⟩) :
    blockRest tokens = ((blockRest (dropSemicolon left)).map (value :: ·)).after recorded := by
  cases tokens with
  | nil => exact absurd faces (not_faces_nil _)
  | cons token rest =>
    change statementFrom token rest = _ at step
    rw [blockRest_eq]
    simp only [peek?_cons, advance_cons]
    rw [if_neg (faces_cons.1 faces), step]

theorem blockRest_of_error {tokens left : List Token} {recorded : List ParseError}
    {error : ParseError} (faces : FacesStatement tokens)
    (step : statement tokens = ⟨.error error, recorded, left⟩) :
    blockRest tokens = match resumeInBlock error left with
      | .abandoned => ⟨.error error, recorded, left⟩
      | .closed => ⟨.ok [], recorded ++ [error], left⟩
      | .continues more => (blockRest more).after (recorded ++ [error]) := by
  cases tokens with
  | nil => exact absurd faces (not_faces_nil _)
  | cons token rest =>
    change statementFrom token rest = _ at step
    rw [blockRest_eq]
    simp only [peek?_cons, advance_cons]
    rw [if_neg (faces_cons.1 faces)]
    generalize statementFrom token rest = first at step
    subst step
    dsimp only
    cases resumeInBlock error left <;> rfl

end Monkey.Parse
