import Monkey.Proofs.Parse.FirstToken

/-!
Whatever the grammar derives is read. The readers are given the tokens of a derivation with more
tokens behind them; they give the tree of the derivation and leave what is behind untouched.
-/
namespace Monkey.Grammar
open Supply
open Parse

structure Ends (level : Level) (rest : List Token) : Prop where
  stops : ¬ Continues level (rest.map Token.kind)
  noElse : ¬ Faces (· = .elseKeyword) rest

theorem Ends.mono {weak strong : Level} {rest : List Token} (ends : Ends weak rest)
    (le : weak ≤ strong) : Ends strong rest :=
  ⟨fun continues => ends.stops (continues_mono le continues), ends.noElse⟩

theorem Ends.climb {level : Level} {rest : List Token} (ends : Ends level rest) (left : Expr) :
    climb level left rest = .ok left rest := climb_of_not_continues ends.stops

theorem ends_nil (level : Level) : Ends level [] := ⟨id, not_faces_nil _⟩

theorem ends_of_kind {level : Level} {token : Token} {kind : Token.Kind} {rest : List Token}
    (same : token.kind = kind) (ends : Continuation.ofKind? kind = none ∧ kind ≠ .elseKeyword) :
    Ends level (token :: rest) := by
  subst same
  constructor
  · rintro ⟨continuation, spelled, -⟩
    rw [ends.1] at spelled
    contradiction
  · intro faces
    exact ends.2 (faces_cons.1 faces)

theorem ends_call {token : Token} {rest : List Token} (noElse : token.kind ≠ .elseKeyword) :
    Ends .call (token :: rest) :=
  ⟨not_continues_call _, fun faces => noElse (faces_cons.1 faces)⟩

theorem ends_operator {op : BinaryOp} {token : Token} {rest : List Token}
    (spelled : BinaryOp.ofKind? token.kind = some op) : Ends op.level (token :: rest) := by
  constructor
  · intro continues
    rcases continues_cons continues with ⟨other, same, stronger⟩ | ⟨paren, -⟩
    · rw [spelled, Option.some.injEq] at same
      subst same
      exact absurd stronger (Nat.lt_irrefl _)
    · exact operator_ne_lparen spelled paren
  · intro faces
    rw [faces_cons] at faces
    rw [faces] at spelled
    contradiction

/-- Reading at `level` takes in a whole expression of the stratum `above`. -/
def Admits (level above : Level) : Prop :=
  level < above ∨ level = above ∧ (above = .lowest ∨ above = .unary)

theorem Admits.tighter {level above : Level} (admits : Admits level above) :
    Admits level above.tighter := by
  rcases admits with lt | ⟨rfl, rfl | rfl⟩
  · exact .inl (Level.lt_of_lt_of_le lt above.le_tighter)
  · exact .inl (by decide)
  · exact .inl (by decide)

theorem Admits.lt_operator {level : Level} {op : BinaryOp} (admits : Admits level op.level) :
    level < op.level := by
  rcases admits with lt | ⟨-, eq | eq⟩
  · exact lt
  · cases op <;> contradiction
  · cases op <;> contradiction

theorem Admits.lt_call {level : Level} (admits : Admits level .call) : level < .call := by
  rcases admits with lt | ⟨-, eq | eq⟩
  · exact lt
  · contradiction
  · contradiction

theorem admits_tighter (op : BinaryOp) : Admits op.level op.level.tighter :=
  .inl (by cases op <;> decide)

theorem parameterList_read {name : String} {names : List String} {tokens rest : List Token}
    {close : Token} (spelled : Parameters (tokens.map Token.kind) (name :: names))
    (closing : close.kind = .rparen) :
    parameterList (tokens ++ close :: rest) = .ok (name :: names) rest := by
  induction names generalizing name tokens with
  | nil =>
    obtain ⟨token, rfl, kind⟩ := List.map_eq_singleton_iff.1 spelled
    have other : ¬ Faces (· = .comma) (close :: rest) := by simp [faces_cons, closing]
    rw [parameterList_eq, List.singleton_append, identifier_ident kind, Step.andThen_ok]
    rw [ifTaken_other other, expect_found closing]
    rfl
  | cons second names ih =>
    obtain ⟨token, tail, rfl, kind, spelled⟩ := List.map_eq_cons_iff.1 spelled
    obtain ⟨comma, tail, rfl, commaKind, spelled⟩ := List.map_eq_cons_iff.1 spelled
    rw [parameterList_eq, List.cons_append, identifier_ident kind, Step.andThen_ok]
    rw [List.cons_append, ifTaken_found commaKind, ih spelled]
    rfl

theorem Parameters.read {names : List String} {tokens rest : List Token} {close : Token}
    (spelled : Parameters (tokens.map Token.kind) names) (closing : close.kind = .rparen) :
    parameters (tokens ++ close :: rest) = .ok names rest := by
  rw [parameters_eq]
  cases names with
  | nil =>
    rw [List.map_eq_nil_iff.1 spelled, List.nil_append, ifTaken_found closing]
  | cons name names =>
    have other : ¬ Faces (· = .rparen) (tokens ++ close :: rest) := by
      cases names <;> obtain ⟨token, tail, rfl, kind, -⟩ := List.map_eq_cons_iff.1 spelled <;>
        simp [faces_cons, kind]
    rw [ifTaken_other other]
    exact parameterList_read spelled closing

theorem Statements.starts {kinds : List Token.Kind} {code : List Stmt}
    (spelled : Statements kinds code) :
    kinds = [] ∨ ∃ kind rest, kinds = kind :: rest ∧ StartsStatement kind := by
  cases spelled with
  | nil => exact .inl rfl
  | semicolon first others =>
    obtain ⟨kind, rest, rfl, starts⟩ := first.starts
    exact .inr ⟨kind, _, rfl, starts⟩
  | bare first ends others =>
    obtain ⟨kind, rest, rfl, starts⟩ := first.starts
    exact .inr ⟨kind, _, rfl, starts⟩

theorem faces_of_spelled {p : Token.Kind → Prop} {kinds : List Token.Kind}
    {tokens rest : List Token} (starts : ∃ kind tail, kinds = kind :: tail ∧ p kind)
    (spelled : tokens.map Token.kind = kinds) : Faces p (tokens ++ rest) := by
  obtain ⟨kind, tail, rfl, starts⟩ := starts
  obtain ⟨token, tokens, rfl, rfl, -⟩ := List.map_eq_cons_iff.1 spelled
  exact faces_cons.2 starts

theorem StartsStatement.ne {kind : Token.Kind} (starts : StartsStatement kind) :
    kind ≠ .rbrace ∧ kind ≠ .semicolon ∧ kind ≠ .elseKeyword := by
  cases kind <;> simp_all [StartsStatement, StartsExpression]

theorem StartsExpression.ne_rparen {kind : Token.Kind} (starts : StartsExpression kind) :
    kind ≠ .rparen := by
  cases kind <;> simp_all [StartsExpression]

theorem StartsExpression.noKeyword {kind : Token.Kind} (starts : StartsExpression kind) :
    ¬ (kind = .letKeyword ∨ kind = .returnKeyword) := by
  cases kind <;> simp_all [StartsExpression]

theorem ArgumentList.starts {kinds : List Token.Kind} {given : List Expr}
    (list : ArgumentList kinds given) :
    ∃ kind tail, kinds = kind :: tail ∧ StartsExpression kind := by
  cases list with
  | last argument => exact argument.starts
  | more argument others =>
    obtain ⟨kind, tail, rfl, starts⟩ := argument.starts
    exact ⟨kind, _, rfl, starts⟩

/-- Behind a statement without a semicolon reading stops by itself. `behind` stands after all the
statements; it is nothing, or begins with the closing brace. -/
theorem Statements.stop {kinds : List Token.Kind} {code : List Stmt} {tokens behind : List Token}
    (others : Statements kinds code) (spelled : tokens.map Token.kind = kinds)
    (ends : ¬ Continues .lowest kinds) (closed : ¬ FacesStatement behind) :
    Ends .lowest (tokens ++ behind) ∧ dropSemicolon (tokens ++ behind) = tokens ++ behind := by
  rcases others.starts with rfl | ⟨kind, tail, rfl, starts⟩
  · rw [List.map_eq_nil_iff.1 spelled, List.nil_append]
    cases behind with
    | nil => exact ⟨ends_nil _, rfl⟩
    | cons token rest =>
      have kind : token.kind = .rbrace := by
        apply Decidable.not_not.1
        intro other
        exact closed (faces_cons.2 other)
      have other : ¬ Faces (· = .semicolon) (token :: rest) := by simp [faces_cons, kind]
      exact ⟨ends_of_kind kind (by decide), dropSemicolon_other other⟩
  · obtain ⟨token, tokens, rfl, rfl, rfl⟩ := List.map_eq_cons_iff.1 spelled
    obtain ⟨-, semicolon, noElse⟩ := starts.ne
    constructor
    · exact ⟨ends, fun faces => noElse (faces_cons.1 faces)⟩
    · exact dropSemicolon_other fun faces => semicolon (faces_cons.1 faces)

theorem Statement.faces {kinds : List Token.Kind} {statement : Stmt} {tokens rest : List Token}
    (first : Statement kinds statement) (spelled : tokens.map Token.kind = kinds) :
    FacesStatement (tokens ++ rest) :=
  (faces_of_spelled first.starts spelled).imp fun _ starts => starts.ne.1

/-- Tokens of these kinds are read as the expression `e`, whatever carries it on. -/
abbrev ReadsExpression (above : Level) (kinds : List Token.Kind) (e : Expr) : Prop :=
  ∀ {level : Level} {tokens rest : List Token}, tokens.map Token.kind = kinds →
    Admits level above → Ends above rest → expression level (tokens ++ rest) = climb level e rest

theorem lowest {kinds : List Token.Kind} {e : Expr} {tokens rest : List Token}
    (reads : ReadsExpression .lowest kinds e) (spelled : tokens.map Token.kind = kinds)
    (ends : Ends .lowest rest) : expression .lowest (tokens ++ rest) = .ok e rest := by
  rw [reads spelled (.inr ⟨rfl, .inl rfl⟩) ends, ends.climb]

theorem reads_prefixed (op : UnaryOp) {kinds : List Token.Kind} {e : Expr}
    (inner : ReadsExpression .unary kinds e) :
    ReadsExpression .unary (op.kind :: kinds) (.unary op e) := by
  intro level tokens rest spelled _ ends
  obtain ⟨token, tokens, rfl, kind, spelled⟩ := List.map_eq_cons_iff.1 spelled
  rw [List.cons_append, expression_cons, operand_unary kind,
    inner spelled (.inr ⟨rfl, .inr rfl⟩) ends, ends.climb]
  rfl

theorem leading_alone {kind : Token.Kind} {e : Expr} {tokens rest : List Token}
    (step : ∀ {token : Token} (rest : List Token), token.kind = kind →
      operand token rest = .ok e rest) (spelled : tokens.map Token.kind = [kind]) :
    leading (tokens ++ rest) = .ok e rest := by
  obtain ⟨token, rfl, same⟩ := List.map_eq_singleton_iff.1 spelled
  exact step rest same

mutual

theorem Expression.read {above : Level} {kinds : List Token.Kind} {e : Expr} :
    Expression above kinds e → ReadsExpression above kinds e
  | @Expression.tighter above _ _ stronger, _, _, _, spelled, admits, ends =>
    stronger.read spelled admits.tighter (ends.mono above.le_tighter)
  | @Expression.operation _ op _ _ left right sign first second,
      level, _, rest, spelled, admits, ends => by
    obtain ⟨us, token, vs, rfl, usKinds, rfl, vsKinds⟩ := split_at_kind spelled
    have right_read : expression op.level (vs ++ rest) = .ok right rest := by
      rw [second.read vsKinds (admits_tighter op) (ends.mono op.level.le_tighter)]
      exact ends.climb right
    calc expression level ((us ++ token :: vs) ++ rest)
        = expression level (us ++ token :: (vs ++ rest)) := by simp
      _ = climb level left (token :: (vs ++ rest)) :=
        first.read usKinds admits (ends_operator sign)
      _ = (expression op.level (vs ++ rest)).andThen fun right =>
            climb level (.binary op left right) := climb_operator sign admits.lt_operator
      _ = climb level (.binary op left right) rest := by rw [right_read, Step.andThen_ok]
  | .minus inner, _, _, _, spelled, admits, ends =>
    reads_prefixed .minus inner.read spelled admits ends
  | .bang inner, _, _, _, spelled, admits, ends =>
    reads_prefixed .bang inner.read spelled admits ends
  | @Expression.call _ _ callee given function args, level, _, rest, spelled, admits, _ => by
    obtain ⟨us, token, tail, rfl, usKinds, kind, spelled⟩ := split_at_kind spelled
    obtain ⟨vs, close, rfl, vsKinds, closing⟩ := split_last_kind spelled
    calc expression level ((us ++ token :: (vs ++ [close])) ++ rest)
        = expression level (us ++ token :: (vs ++ close :: rest)) := by simp
      _ = climb level callee (token :: (vs ++ close :: rest)) :=
        function.read usKinds admits (ends_call (by rw [kind]; decide))
      _ = (arguments (vs ++ close :: rest)).andThen fun given => climb level (.call callee given) :=
        climb_arguments kind admits.lt_call
      _ = climb level (.call callee given) rest := by
        rw [args.read vsKinds closing, Step.andThen_ok]
  | .primary alone, level, _, rest, spelled, _, ends => by
    rw [expression_eq, alone.read spelled ends.noElse, Step.andThen_ok]

theorem Primary.read {kinds : List Token.Kind} {e : Expr} :
    Primary kinds e → ∀ {tokens rest : List Token}, tokens.map Token.kind = kinds →
      ¬ Faces (· = .elseKeyword) rest → leading (tokens ++ rest) = .ok e rest
  | .ident name, _, _, spelled, _ => leading_alone (fun _ kind => by rw [operand_eq, kind]) spelled
  | .int denotes, _, _, spelled, _ =>
    leading_alone (fun _ kind => by simp only [operand_eq, kind, denotes]) spelled
  | .string contents, _, _, spelled, _ =>
    leading_alone (fun _ kind => by rw [operand_eq, kind]) spelled
  | .true, _, _, spelled, _ => leading_alone (fun _ kind => by rw [operand_eq, kind]) spelled
  | .false, _, _, spelled, _ => leading_alone (fun _ kind => by rw [operand_eq, kind]) spelled
  | .group inner, _, rest, spelled, _ => by
    obtain ⟨token, tail, rfl, kind, spelled⟩ := List.map_eq_cons_iff.1 spelled
    obtain ⟨us, close, rfl, usKinds, closing⟩ := split_last_kind spelled
    show operand token ((us ++ [close]) ++ rest) = _
    rw [operand_eq, kind, ← List.append_cons]
    simp only
    rw [lowest inner.read usKinds (ends_of_kind closing (by decide)),
      Step.andThen_ok, expect_found closing]
    rfl
  | .cond condition branch, _, rest, spelled, noElse => by
    obtain ⟨token, tail, rfl, kind, spelled⟩ := List.map_eq_cons_iff.1 spelled
    obtain ⟨opening, tail, rfl, openKind, spelled⟩ := List.map_eq_cons_iff.1 spelled
    obtain ⟨us, close, vs, rfl, usKinds, closing, vsKinds⟩ := split_at_kind spelled
    show operand token (opening :: (us ++ close :: vs) ++ rest) = _
    rw [operand_eq, kind, List.cons_append, List.append_assoc, List.cons_append]
    simp only
    rw [expect_found openKind, Step.andThen_ok,
      lowest condition.read usKinds (ends_of_kind closing (by decide)),
      Step.andThen_ok, expect_found closing, Step.andThen_ok, branch.read vsKinds, Step.andThen_ok]
    rw [ifTaken_other noElse]
  | .condElse condition branch other, _, rest, spelled, _ => by
    obtain ⟨token, tail, rfl, kind, spelled⟩ := List.map_eq_cons_iff.1 spelled
    obtain ⟨opening, tail, rfl, openKind, spelled⟩ := List.map_eq_cons_iff.1 spelled
    obtain ⟨us, close, tail, rfl, usKinds, closing, spelled⟩ := split_at_kind spelled
    obtain ⟨vs, keyword, ws, rfl, vsKinds, elseKind, wsKinds⟩ := split_at_kind spelled
    show operand token (opening :: (us ++ close :: (vs ++ keyword :: ws)) ++ rest) = _
    rw [operand_eq, kind, List.cons_append, List.append_assoc, List.cons_append, List.append_assoc,
      List.cons_append]
    simp only
    rw [expect_found openKind, Step.andThen_ok,
      lowest condition.read usKinds (ends_of_kind closing (by decide)),
      Step.andThen_ok, expect_found closing, Step.andThen_ok, branch.read vsKinds, Step.andThen_ok]
    rw [ifTaken_found elseKind, other.read wsKinds]
    rfl
  | .fn parameters body, _, rest, spelled, _ => by
    obtain ⟨token, tail, rfl, kind, spelled⟩ := List.map_eq_cons_iff.1 spelled
    obtain ⟨opening, tail, rfl, openKind, spelled⟩ := List.map_eq_cons_iff.1 spelled
    obtain ⟨us, close, vs, rfl, usKinds, closing, vsKinds⟩ := split_at_kind spelled
    show operand token (opening :: (us ++ close :: vs) ++ rest) = _
    rw [operand_eq, kind, List.cons_append, List.append_assoc, List.cons_append]
    simp only
    rw [expect_found openKind, Step.andThen_ok, Parameters.read (usKinds ▸ parameters) closing,
      Step.andThen_ok, body.read vsKinds]
    rfl

theorem Arguments.read {kinds : List Token.Kind} {given : List Expr} :
    Arguments kinds given → ∀ {tokens rest : List Token} {close : Token},
      tokens.map Token.kind = kinds → close.kind = .rparen →
        arguments (tokens ++ close :: rest) = .ok given rest
  | .none, _, rest, close, spelled, closing => by
    rw [List.map_eq_nil_iff.1 spelled, List.nil_append, arguments_eq, ifTaken_found closing]
  | .some list, _, rest, close, spelled, closing => by
    have other : ¬ Faces (· = .rparen) (_ ++ close :: rest) := fun closed =>
      (faces_of_spelled list.starts spelled).not closed fun _ starts => starts.ne_rparen
    rw [arguments_eq, ifTaken_other other]
    exact list.read spelled closing

theorem ArgumentList.read {kinds : List Token.Kind} {given : List Expr} :
    ArgumentList kinds given → ∀ {tokens rest : List Token} {close : Token},
      tokens.map Token.kind = kinds → close.kind = .rparen →
        argumentList (tokens ++ close :: rest) = .ok given rest
  | .last argument, _, rest, close, spelled, closing => by
    have other : ¬ Faces (· = .comma) (close :: rest) := by simp [faces_cons, closing]
    rw [argumentList_eq,
      lowest argument.read spelled (ends_of_kind closing (by decide)),
      Step.andThen_ok]
    rw [ifTaken_other other, expect_found closing]
    rfl
  | .more argument others, _, rest, close, spelled, closing => by
    obtain ⟨us, comma, vs, rfl, usKinds, commaKind, vsKinds⟩ := split_at_kind spelled
    rw [List.append_assoc, List.cons_append, argumentList_eq,
      lowest argument.read usKinds (ends_of_kind commaKind (by decide)),
      Step.andThen_ok]
    rw [ifTaken_found commaKind, others.read vsKinds closing]
    rfl

theorem Block.read {kinds : List Token.Kind} {code : List Stmt} :
    Block kinds code → ∀ {tokens rest : List Token}, tokens.map Token.kind = kinds →
      block (tokens ++ rest) = .ok code rest
  | .braces inner, _, rest, spelled => by
    obtain ⟨opening, tail, rfl, kind, spelled⟩ := List.map_eq_cons_iff.1 spelled
    obtain ⟨us, close, rfl, usKinds, closing⟩ := split_last_kind spelled
    rw [block_eq, List.cons_append, expect_found kind, Step.andThen_ok, ← List.append_cons]
    exact inner.read usKinds closing

theorem Statement.read {kinds : List Token.Kind} {statement : Stmt} :
    Statement kinds statement → ∀ {tokens rest : List Token}, tokens.map Token.kind = kinds →
      Ends .lowest rest → Parse.statement (tokens ++ rest) = .ok statement rest
  | .letStmt name value, _, rest, spelled, ends => by
    obtain ⟨token, tail, rfl, kind, spelled⟩ := List.map_eq_cons_iff.1 spelled
    obtain ⟨ident, tail, rfl, identKind, spelled⟩ := List.map_eq_cons_iff.1 spelled
    obtain ⟨assign, us, rfl, assignKind, usKinds⟩ := List.map_eq_cons_iff.1 spelled
    simp only [List.cons_append]
    rw [statement_let kind, identifier_ident identKind, Step.andThen_ok, expect_found assignKind,
      Step.andThen_ok, lowest value.read usKinds ends]
    rfl
  | .returnStmt value, _, rest, spelled, ends => by
    obtain ⟨token, us, rfl, kind, usKinds⟩ := List.map_eq_cons_iff.1 spelled
    rw [List.cons_append, statement_return kind, lowest value.read usKinds ends]
    rfl
  | .exprStmt value, tokens, rest, spelled, ends => by
    have plain : ¬ FacesKeyword (tokens ++ rest) := fun keyword =>
      (faces_of_spelled value.starts spelled).not keyword fun _ starts => starts.noKeyword
    rw [statement_eq_expression plain, lowest value.read spelled ends]
    rfl

theorem Statements.read {kinds : List Token.Kind} {code : List Stmt} :
    Statements kinds code → ∀ {tokens rest : List Token} {close : Token},
      tokens.map Token.kind = kinds → close.kind = .rbrace →
        blockRest (tokens ++ close :: rest) = .ok code rest
  | .nil, _, rest, close, spelled, closing => by
    rw [List.map_eq_nil_iff.1 spelled, List.nil_append, blockRest_close _ closing]
  | .semicolon first others, _, rest, close, spelled, closing => by
    obtain ⟨us, semicolon, vs, rfl, usKinds, kind, vsKinds⟩ := split_at_kind spelled
    rw [List.append_assoc, List.cons_append,
      blockRest_of_ok (first.faces usKinds)
        (first.read usKinds (ends_of_kind kind (by decide))),
      dropSemicolon_found kind, others.read vsKinds closing]
    rfl
  | .bare first ends others, _, rest, close, spelled, closing => by
    obtain ⟨us, vs, rfl, usKinds, vsKinds⟩ := List.map_eq_append_iff.1 spelled
    have closed : ¬ FacesStatement (close :: rest) := fun faces => faces_cons.1 faces closing
    obtain ⟨stops, same⟩ := others.stop vsKinds ends closed
    rw [List.append_assoc, blockRest_of_ok (first.faces usKinds) (first.read usKinds stops), same,
      others.read vsKinds closing]
    rfl

end

theorem Statement.ne_nil {kinds : List Token.Kind} {statement : Stmt} {tokens rest : List Token}
    (first : Statement kinds statement) (spelled : tokens.map Token.kind = kinds) :
    tokens ++ rest ≠ [] := by
  intro empty
  have faces : FacesStatement (tokens ++ rest) := first.faces spelled
  rw [empty] at faces
  exact not_faces_nil _ faces

theorem Statements.recognized {kinds : List Token.Kind} {code : List Stmt} :
    Statements kinds code → ∀ {tokens : List Token}, tokens.map Token.kind = kinds →
      statements tokens = ⟨code, [], []⟩
  | .nil, _, spelled => by rw [List.map_eq_nil_iff.1 spelled, statements_nil]
  | .semicolon first others, _, spelled => by
    obtain ⟨us, semicolon, vs, rfl, usKinds, kind, vsKinds⟩ := split_at_kind spelled
    have ends : Ends .lowest (semicolon :: vs) := ends_of_kind kind (by decide)
    rw [statements_of_ok (peek?_ne_none (first.ne_nil usKinds)) (first.read usKinds ends),
      dropSemicolon_found kind, others.recognized vsKinds]
    rfl
  | .bare first ends others, _, spelled => by
    obtain ⟨us, vs, rfl, usKinds, vsKinds⟩ := List.map_eq_append_iff.1 spelled
    obtain ⟨stops, same⟩ := others.stop vsKinds ends (not_faces_nil _)
    rw [List.append_nil] at stops same
    rw [statements_of_ok (peek?_ne_none (first.ne_nil usKinds)) (first.read usKinds stops), same,
      others.recognized vsKinds]
    rfl

def unplaced (kinds : List Token.Kind) : List Token := kinds.map fun kind => ⟨kind, 0, 0⟩

theorem unplaced_kinds (kinds : List Token.Kind) : (unplaced kinds).map Token.kind = kinds := by
  simp [unplaced, Function.comp_def]

/-- A list of kinds derives one tree at most, because reading can only find one. -/
theorem Statements.unique {kinds : List Token.Kind} {code other : List Stmt}
    (first : Statements kinds code) (second : Statements kinds other) : code = other := by
  have spelled := unplaced_kinds kinds
  have same := (first.recognized spelled).symm.trans (second.recognized spelled)
  exact congrArg Reading.program same

end Monkey.Grammar
