import Monkey.Parse.Descent

/-!
The readers of the language, as functions from the tokens ahead to a step. Each satisfies an equation
that says what it does with the first token.
-/
namespace Monkey.Parse
open Supply

variable {σ : Type} [Supply σ]

def parameterList (tokens : σ) : Step σ (List String) := (Descent.parameterList tokens).val

def parameters (tokens : σ) : Step σ (List String) := (Descent.parameters tokens).val

def operand (token : Token) (tokens : σ) : Step σ Expr := (Descent.operand token tokens).val

def expression (level : Level) (tokens : σ) : Step σ Expr :=
  (Descent.expression level tokens).val

def climb (level : Level) (left : Expr) (tokens : σ) : Step σ Expr :=
  (Descent.climb level left tokens).val

def argumentList (tokens : σ) : Step σ (List Expr) := (Descent.argumentList tokens).val

def arguments (tokens : σ) : Step σ (List Expr) := (Descent.arguments tokens).val

def block (tokens : σ) : Step σ Block := (Descent.block tokens).val

def blockRest (tokens : σ) : Step σ Block := (Descent.blockRest tokens).val

def statementFrom (token : Token) (tokens : σ) : Step σ Stmt :=
  (Descent.statementFrom token tokens).val

def statement (tokens : σ) : Step σ Stmt :=
  match peek? tokens with
  | none => .fail (.prematureEnd .expression) tokens
  | some token => statementFrom token (advance tokens)

def ifTaken {α : Type} (kind : Token.Kind) (behind other : σ → Step σ α) (tokens : σ) : Step σ α :=
  match take? kind tokens with
  | some rest => behind rest
  | none => other tokens

theorem ifTaken_of_some {α : Type} {kind : Token.Kind} {tokens rest : σ}
    (taken : take? kind tokens = some rest) (behind other : σ → Step σ α) :
    ifTaken kind behind other tokens = behind rest := by
  rw [ifTaken, taken]

theorem ifTaken_of_none {α : Type} {kind : Token.Kind} {tokens : σ}
    (absent : take? kind tokens = none) (behind other : σ → Step σ α) :
    ifTaken kind behind other tokens = other tokens := by
  rw [ifTaken, absent]

theorem parameterList_eq (tokens : σ) :
    parameterList tokens = (identifier tokens).andThen fun name =>
      ifTaken .comma (fun more => (parameterList more).map (name :: ·)) fun rest =>
        (expect .rparen rest).map fun _ => [name] := by
  unfold parameterList
  rw [Descent.parameterList]
  apply Within.val_andThen
  intro name rest le
  split
  · next more taken => rw [ifTaken_of_some taken]; rfl
  · next absent => rw [ifTaken_of_none absent]; rfl

theorem parameters_eq (tokens : σ) :
    parameters tokens = ifTaken .rparen (.ok []) parameterList tokens := by
  unfold parameters Descent.parameters
  split
  · next rest taken => rw [ifTaken_of_some taken]; rfl
  · next absent => rw [ifTaken_of_none absent]; rfl

theorem operand_eq (token : Token) (tokens : σ) :
    operand token tokens = match token.kind with
      | .ident name => .ok (.ident name) tokens
      | .int digits =>
        match Numeral.read digits with
        | .ok value => .ok (.int value) tokens
        | .error fault => .fail (.invalidInteger token fault) tokens
      | .string contents => .ok (.string contents) tokens
      | .trueKeyword => .ok (.bool true) tokens
      | .falseKeyword => .ok (.bool false) tokens
      | .bang => (expression .unary tokens).map (.unary .bang)
      | .minus => (expression .unary tokens).map (.unary .minus)
      | .lparen =>
        (expression .lowest tokens).andThen fun inner rest =>
        (expect .rparen rest).map fun _ => inner
      | .ifKeyword =>
        (expect .lparen tokens).andThen fun _ rest =>
        (expression .lowest rest).andThen fun test rest =>
        (expect .rparen rest).andThen fun _ rest =>
        (block rest).andThen fun consequence =>
        ifTaken .elseKeyword
          (fun more => (block more).map fun alternative =>
            .cond test consequence (some alternative))
          (.ok (.cond test consequence none))
      | .fnKeyword =>
        (expect .lparen tokens).andThen fun _ rest =>
        (parameters rest).andThen fun names rest =>
        (block rest).map (.fn names)
      | _ => .fail (.noRule token) tokens := by
  unfold operand
  rw [Descent.operand]
  cases kind : token.kind
  case int digits => cases value : Numeral.read digits <;> simp only [value] <;> rfl
  case lparen => exact Within.val_andThen fun _ _ _ => rfl
  case ifKeyword =>
    refine Within.val_andThen fun _ _ _ => Within.val_andThen fun _ _ _ =>
      Within.val_andThen fun _ _ _ => Within.val_andThen fun _ _ _ => ?_
    split
    · next more taken => rw [ifTaken_of_some taken]; rfl
    · next absent => rw [ifTaken_of_none absent]; rfl
  case fnKeyword =>
    exact Within.val_andThen fun _ _ _ => Within.val_andThen fun _ _ _ => rfl
  all_goals rfl

def leading (tokens : σ) : Step σ Expr :=
  match next? tokens with
  | none => .fail (.prematureEnd .expression) tokens
  | some (token, rest) => operand token rest

theorem expression_eq (level : Level) (tokens : σ) :
    expression level tokens = (leading tokens).andThen (climb level) := by
  unfold expression leading
  rw [Descent.expression]
  split
  · next ended => simp only [ended]; rfl
  · next token rest taken =>
    simp only [taken]
    show (Descent.expressionFrom level token rest).val = _
    rw [Descent.expressionFrom]
    exact Within.val_andThen fun _ _ _ => rfl

theorem climb_eq (level : Level) (left : Expr) (tokens : σ) :
    climb level left tokens = match peek? tokens with
      | none => .ok left tokens
      | some token =>
        match Continuation.ofKind? token.kind with
        | none => .ok left tokens
        | some continuation =>
          if level < continuation.level then
            match continuation with
            | .operator op =>
              (expression op.level (advance tokens)).andThen fun right =>
                climb level (.binary op left right)
            | .arguments =>
              (arguments (advance tokens)).andThen fun given => climb level (.call left given)
          else .ok left tokens := by
  unfold climb
  rw [Descent.climb]
  split
  · next ended => simp only [ended]; rfl
  · next token seen =>
    simp only [seen]
    cases kind : Continuation.ofKind? token.kind with
    | none => rfl
    | some continuation =>
      by_cases stronger : level < continuation.level
      · simp only
        rw [if_pos stronger, if_pos stronger]
        cases continuation with
        | operator op =>
          change ((Descent.expression op.level (advance tokens)).andThen _).val = _
          exact Within.val_andThen fun _ _ _ => rfl
        | arguments =>
          change ((Descent.arguments (advance tokens)).andThen _).val = _
          exact Within.val_andThen fun _ _ _ => rfl
      · simp only
        rw [if_neg stronger, if_neg stronger]
        rfl

theorem argumentList_eq (tokens : σ) :
    argumentList tokens = (expression .lowest tokens).andThen fun argument =>
      ifTaken .comma (fun more => (argumentList more).map (argument :: ·)) fun rest =>
        (expect .rparen rest).map fun _ => [argument] := by
  unfold argumentList
  rw [Descent.argumentList]
  apply Within.val_andThen
  intro argument rest le
  split
  · next more taken => rw [ifTaken_of_some taken]; rfl
  · next absent => rw [ifTaken_of_none absent]; rfl

theorem arguments_eq (tokens : σ) :
    arguments tokens = ifTaken .rparen (.ok []) argumentList tokens := by
  unfold arguments
  rw [Descent.arguments]
  split
  · next rest taken => rw [ifTaken_of_some taken]; rfl
  · next absent => rw [ifTaken_of_none absent]; rfl

theorem block_eq (tokens : σ) :
    block tokens = (expect .lbrace tokens).andThen fun _ => blockRest := by
  unfold block
  rw [Descent.block]
  exact Within.val_andThen fun _ _ _ => rfl

theorem blockRest_eq (tokens : σ) :
    blockRest tokens = match peek? tokens with
      | none => .fail (.prematureEnd (.token .rbrace)) tokens
      | some token =>
        if token.kind = .rbrace then .ok [] (advance tokens)
        else
          match statementFrom token (advance tokens) with
          | ⟨.ok statement, recorded, left⟩ =>
            ((blockRest (dropSemicolon left)).map (statement :: ·)).after recorded
          | ⟨.error error, recorded, left⟩ =>
            match resumeInBlock error left with
            | .abandoned => ⟨.error error, recorded, left⟩
            | .closed => ⟨.ok [], recorded ++ [error], left⟩
            | .continues more => (blockRest more).after (recorded ++ [error]) := by
  unfold blockRest
  rw [Descent.blockRest]
  split
  · next ended => simp only [ended]; rfl
  · next token seen =>
    simp only [seen]
    by_cases closing : token.kind = .rbrace
    · rw [if_pos closing, if_pos closing]
      rfl
    · rw [if_neg closing, if_neg closing]
      unfold statementFrom
      cases Descent.statementFrom token (advance tokens) with
      | mk step bound =>
        obtain ⟨result, recorded, left⟩ := step
        cases result with
        | ok statement => rfl
        | error error =>
          simp only
          split
          · next resumed => simp only [resumed]; rfl
          · next resumed => simp only [resumed]; rfl
          · next resumed => simp only [resumed]; rfl

theorem statementFrom_eq (token : Token) (tokens : σ) :
    statementFrom token tokens = match token.kind with
      | .letKeyword =>
        (identifier tokens).andThen fun name rest =>
        (expect .assign rest).andThen fun _ rest =>
        (expression .lowest rest).map (.letStmt name)
      | .returnKeyword => (expression .lowest tokens).map .returnStmt
      | _ => ((operand token tokens).andThen (climb .lowest)).map .exprStmt := by
  unfold statementFrom
  rw [Descent.statementFrom, Descent.expressionFrom]
  cases kind : token.kind
  case letKeyword => exact Within.val_andThen fun _ _ _ => Within.val_andThen fun _ _ _ => rfl
  case returnKeyword => rfl
  all_goals exact congrArg (Step.map Stmt.exprStmt) (Within.val_andThen fun _ _ _ => rfl)

theorem size_expression_rest_le (level : Level) (tokens : σ) :
    size (expression level tokens).rest ≤ size tokens :=
  (Descent.expression level tokens).property

theorem size_arguments_rest_le (tokens : σ) : size (arguments tokens).rest ≤ size tokens :=
  (Descent.arguments tokens).property

theorem size_statementFrom_rest_le (token : Token) (tokens : σ) :
    size (statementFrom token tokens).rest ≤ size tokens :=
  (Descent.statementFrom token tokens).property

end Monkey.Parse
