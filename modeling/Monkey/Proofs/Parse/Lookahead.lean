import Monkey.Proofs.Parse.Consumption

/-!
Every reader looks one token ahead and uses up tokens by the pattern of `Uses`. The readers call one
another on shorter lists, or on the same list in one fixed order, so one induction on the length of
the list covers them all.
-/
namespace Monkey.Parse
open Supply
open Grammar

variable {α : Type}

theorem expect_reads {kind : Token.Kind} (plain : Plain kind) (tokens : List Token) :
    Reads Uses (expect kind) tokens := by
  cases tokens with
  | nil => exact .ended rfl (.ended rfl) rfl
  | cons token rest =>
    by_cases found : token.kind = kind
    · apply Reads.value [token] () (.token (found ▸ plain))
      intro more head
      simp [expect_cons, found, Step.ok]
    · apply Reads.fault [] (.unexpectedToken (.token kind) token) rfl (.fault rfl)
      intro more
      simp [expect_cons, found, Step.fail]

theorem identifier_reads (tokens : List Token) : Reads Uses identifier tokens := by
  cases tokens with
  | nil => exact .ended rfl (.ended rfl) rfl
  | cons token rest =>
    cases kind : token.kind
    case ident name =>
      have plain : Plain token.kind := by simp [kind, Plain]
      apply Reads.value [token] name (.token plain)
      intro more head
      simp [identifier, kind, Step.ok]
    all_goals
      apply Reads.fault [] (.unexpectedToken .identifier token) rfl (.fault rfl)
      intro more
      simp [identifier, kind, Step.fail]

/-- Taking a token of one kind if it is there is a choice that the next token makes. -/
theorem Reads.choice {kind : Token.Kind} (plain : Plain kind)
    {taken other : List Token → Step (List Token) α} {tokens : List Token}
    (present : ∀ {rest}, rest.length < tokens.length → Reads Uses taken rest)
    (absent : Reads Uses other tokens) : Reads Uses (ifTaken kind taken other) tokens := by
  cases found : take? kind tokens with
  | none =>
    apply absent.extend [] [] id
    · intro more head
      rw [List.nil_append, ifTaken_of_none (take?_eq_none_congr head found), Step.map_id]
      rfl
    · exact fun uses => uses
  | some rest =>
    obtain ⟨token, rfl, same⟩ := eq_cons_of_take? found
    apply (present (Nat.lt_succ_self _)).after_token (same ▸ plain)
    exact fun more => ifTaken_found same more

theorem ok_reads (value : α) (tokens : List Token) : Reads Uses (Step.ok value) tokens :=
  .value [] value .nothing fun _ _ => rfl

theorem parameterList_reads (tokens : List Token) : Reads Uses parameterList tokens := by
  induction size : tokens.length using Nat.strongRecOn generalizing tokens with
  | ind n ih =>
    apply Reads.congr _ parameterList_eq
    apply (identifier_reads tokens).andThen
    intro name rest shorter
    apply Reads.choice (by decide) _ ((expect_reads (by decide) rest).map _)
    intro more less
    exact (ih more.length (by omega) more rfl).map _

theorem parameters_reads (tokens : List Token) : Reads Uses parameters tokens :=
  (Reads.choice (by decide) (fun _ => ok_reads [] _) (parameterList_reads tokens)).congr
    parameters_eq

structure AllRead (tokens : List Token) : Prop where
  leading : Reads Uses leading tokens
  climb : ∀ level left, Reads Uses (climb level left) tokens
  expression : ∀ level, Reads Uses (expression level) tokens
  argumentList : Reads Uses argumentList tokens
  arguments : Reads Uses arguments tokens
  block : Reads Uses block tokens
  statement : Reads Uses statement tokens
  blockRest : Reads UsesInside blockRest tokens

theorem operand_reads {token : Token} {rest : List Token} (starts : StartsExpression token.kind)
    (readable : ∀ digits, token.kind = .int digits → ∃ value, Numeral.read digits = .ok value)
    (below : ∀ {us}, us.length ≤ rest.length → AllRead us) : Reads Uses (operand token) rest := by
  have here := below (Nat.le_refl rest.length)
  rw [funext (operand_eq token)]
  cases kind : token.kind <;> simp only [kind, StartsExpression] at starts ⊢
  case ident name => exact ok_reads _ rest
  case string contents => exact ok_reads _ rest
  case trueKeyword => exact ok_reads _ rest
  case falseKeyword => exact ok_reads _ rest
  case int digits =>
    obtain ⟨value, read⟩ := readable digits kind
    simp only [read]
    exact ok_reads _ rest
  case bang => exact (here.expression .unary).map _
  case minus => exact (here.expression .unary).map _
  case lparen => exact (here.expression .lowest).andThen fun _ => (expect_reads (by decide) _).map _
  case ifKeyword =>
    apply (expect_reads (by decide) rest).andThen
    intro _ _ le₁
    apply ((below le₁).expression .lowest).andThen
    intro test _ le₂
    apply (expect_reads (by decide) _).andThen
    intro _ _ le₃
    apply (below (by omega)).block.andThen
    intro consequence left le₄
    apply Reads.choice (by decide) _ (ok_reads _ left)
    intro more less
    exact (below (by omega)).block.map _
  case fnKeyword =>
    apply (expect_reads (by decide) rest).andThen
    intro _ _ le₁
    apply (parameters_reads _).andThen
    intro names _ le₂
    exact (below (by omega)).block.map _

theorem StartsExpression.plain {kind : Token.Kind} (starts : StartsExpression kind) :
    Plain kind := by
  cases kind <;> simp_all [StartsExpression, Plain]

theorem leading_reads {tokens : List Token}
    (below : ∀ us, us.length < tokens.length → AllRead us) : Reads Uses leading tokens := by
  cases tokens with
  | nil => exact .ended rfl (.ended rfl) rfl
  | cons token rest =>
    rcases operand_begins_or_refuses token with ⟨starts, readable⟩ | ⟨error, carries, refused⟩
    · have reads := operand_reads starts readable fun le => below _ (Nat.lt_succ_of_le le)
      exact reads.after_token (StartsExpression.plain starts) fun more => rfl
    · exact .fault [] error carries (.fault carries) fun more => refused more

theorem operator_plain {kind : Token.Kind} {op : BinaryOp}
    (spelled : BinaryOp.ofKind? kind = some op) : Plain kind := by
  cases kind <;> simp_all [BinaryOp.ofKind?, Plain]

theorem climb_reads (level : Level) (left : Expr) {tokens : List Token}
    (below : ∀ us, us.length < tokens.length → AllRead us) :
    Reads Uses (climb level left) tokens := by
  by_cases continues : Continues level (tokens.map Token.kind)
  · cases tokens with
    | nil => exact absurd continues (not_continues_nil level)
    | cons token rest =>
      have below : ∀ {us}, us.length ≤ rest.length → AllRead us := fun le =>
        below _ (Nat.lt_succ_of_le le)
      rcases continues_cons continues with ⟨op, spelled, stronger⟩ | ⟨kind, stronger⟩
      · have reads : Reads Uses (fun rest => (expression op.level rest).andThen fun right =>
            climb level (.binary op left right)) rest :=
          ((below (Nat.le_refl _)).expression op.level).andThen fun le => (below le).climb _ _
        exact reads.after_token (operator_plain spelled) fun more => climb_operator spelled stronger
      · have reads : Reads Uses (fun rest => (arguments rest).andThen fun given =>
            climb level (.call left given)) rest :=
          (below (Nat.le_refl _)).arguments.andThen fun le => (below le).climb _ _
        exact reads.after_token (by rw [kind]; decide) fun more => climb_arguments kind stronger
  · apply Reads.value [] left .nothing
    intro more head
    exact climb_of_not_continues (mt (continues_congr head) continues)

theorem statement_reads {tokens : List Token}
    (below : ∀ us, us.length < tokens.length → AllRead us)
    (here : ∀ level, Reads Uses (expression level) tokens) : Reads Uses statement tokens := by
  by_cases keyword : FacesKeyword tokens
  · cases tokens with
    | nil => exact absurd keyword (not_faces_nil _)
    | cons token rest =>
      have below : ∀ {us}, us.length ≤ rest.length → AllRead us := fun le =>
        below _ (Nat.lt_succ_of_le le)
      rcases faces_cons.1 keyword with kind | kind
      · have reads : Reads Uses (fun rest => (identifier rest).andThen fun name rest =>
            (expect .assign rest).andThen fun _ rest =>
            (expression .lowest rest).map (Stmt.letStmt name)) rest := by
          apply (identifier_reads rest).andThen
          intro name _ le₁
          apply (expect_reads (by decide) _).andThen
          intro _ _ le₂
          exact ((below (by omega)).expression .lowest).map _
        exact reads.after_token (by rw [kind]; decide) (statement_let kind)
      · have reads := ((below (Nat.le_refl _)).expression .lowest).map Stmt.returnStmt
        exact reads.after_token (by rw [kind]; decide) (statement_return kind)
  · apply ((here .lowest).map Stmt.exprStmt).extend [] [] id
    · intro more head
      rw [Step.map_id]
      exact statement_eq_expression fun faces => keyword (faces.congr head.symm)
    · exact fun uses => uses

theorem argumentList_reads {tokens : List Token}
    (below : ∀ us, us.length < tokens.length → AllRead us)
    (here : ∀ level, Reads Uses (expression level) tokens) : Reads Uses argumentList tokens := by
  apply Reads.congr _ argumentList_eq
  apply (here .lowest).andThen
  intro argument rest le
  apply Reads.choice (by decide) _ ((expect_reads (by decide) rest).map _)
  intro more less
  exact (below more (by omega)).argumentList.map _

theorem arguments_reads {tokens : List Token} (list : Reads Uses argumentList tokens) :
    Reads Uses arguments tokens :=
  (Reads.choice (by decide) (fun _ => ok_reads [] _) list).congr arguments_eq

theorem semicolon_reads {tokens : List Token}
    (below : ∀ us, us.length ≤ tokens.length → Reads UsesInside blockRest us) :
    Reads UsesInside (fun tokens => blockRest (dropSemicolon tokens)) tokens := by
  cases found : take? .semicolon tokens with
  | none =>
    apply (below tokens (Nat.le_refl _)).extend [] [] id
    · intro more head
      simp only [List.nil_append, dropSemicolon, take?_eq_none_congr head found, Step.map_id]
      rfl
    · exact fun uses => uses
  | some rest =>
    obtain ⟨token, rfl, kind⟩ := eq_cons_of_take? found
    apply (below rest (Nat.le_succ _)).extend [token] [] id
    · intro more head
      simp only [List.singleton_append, dropSemicolon_found kind, Step.map_id]
      rfl
    · exact .semicolon kind

theorem blockRest_reads_of_fault {front left : List Token} {token : Token}
    {recorded : List ParseError} {error : ParseError} (carries : error.token? = some token)
    (uses : Uses (some error) recorded (front ++ [token]))
    (stands : ∀ more, FacesStatement (front ++ token :: more))
    (same : ∀ more, statement (front ++ token :: more) = ⟨.error error, recorded, more⟩)
    (inside : ∀ us, us.length ≤ left.length → Reads UsesInside blockRest us) :
    Reads UsesInside blockRest (front ++ token :: left) := by
  by_cases closing : token.kind = .rbrace
  · have closed (more : List Token) :
        blockRest (front ++ token :: more) = ⟨.ok [], recorded ++ [error], more⟩ := by
      rw [blockRest_of_error (stands more) (same more), resumeInBlock_closed carries closing]
    rw [List.append_cons]
    apply Reads.value (front ++ [token]) [] (.closedByFault carries closing uses)
    intro more head
    rw [← List.append_cons, closed]
  · have continues (more : List Token) : blockRest (front ++ token :: more) =
        (blockRest (resumption .block token.kind more)).after (recorded ++ [error]) := by
      rw [blockRest_of_error (stands more) (same more), resumeInBlock_continues carries closing]
    obtain ⟨passed, rest, rfl, ⟨inner, level, zeroOrNil⟩, stops⟩ :=
      resumption_stops token.kind left
    rw [show front ++ token :: (passed ++ rest) = (front ++ token :: passed) ++ rest by simp]
    -- skipping stopped at a place where statements go on, or it ran out of tokens
    rcases zeroOrNil with rfl | rfl
    · apply (inside rest (by simp)).extend (front ++ token :: passed) (recorded ++ [error]) id
      · intro more head
        rw [List.append_assoc, List.cons_append, continues, stops more head, Step.map_id]
      · intro ending late vs usesVs
        simpa using UsesInside.resumed carries closing uses level usesVs
    · have premature : (ParseError.prematureEnd (.token .rbrace)).token? = none := rfl
      have lost := UsesInside.lost carries closing uses level premature
      have stopped := stops [] rfl
      simp only [List.append_nil, List.append_assoc, List.singleton_append] at stopped lost ⊢
      apply Reads.ended premature lost
      rw [continues, stopped, blockRest_nil]
      simp [Step.after, Step.fail]

theorem blockRest_reads {tokens : List Token}
    (below : ∀ us, us.length < tokens.length → AllRead us) (here : Reads Uses statement tokens) :
    Reads UsesInside blockRest tokens := by
  by_cases stands : FacesStatement tokens
  · have nonempty : tokens ≠ [] := by
      rintro rfl
      exact not_faces_nil _ stands
    have shorter := statement_rest_length_lt nonempty
    have inside : ∀ us, us.length < tokens.length → Reads UsesInside blockRest us :=
      fun us less => (below us less).blockRest
    cases here with
    | @value used left recorded value uses same =>
      rw [same left rfl] at shorter
      have others : Reads UsesInside (fun tokens => blockRest (dropSemicolon tokens)) left :=
        semicolon_reads fun us le => inside us (Nat.lt_of_le_of_lt le shorter)
      apply others.extend used recorded (value :: ·)
      · intro more head
        exact blockRest_of_ok (stands.congr (head?_append_congr head)) (same more head)
      · exact .statement uses
    | @fault front left token recorded error carries uses same =>
      rw [same left] at shorter
      have standing (more : List Token) : FacesStatement (front ++ token :: more) :=
        stands.congr (head?_append_congr rfl)
      exact blockRest_reads_of_fault carries uses standing same fun us le =>
        inside us (Nat.lt_of_le_of_lt le shorter)
    | @ended _ recorded error carries uses step =>
      apply Reads.ended carries (.abandoned carries uses)
      rw [blockRest_of_error stands step]
      simp [resumeInBlock, carries]
  · cases tokens with
    | nil => exact .ended rfl (.ended rfl) blockRest_nil
    | cons token rest =>
      have closing : token.kind = .rbrace := Decidable.not_not.1 fun other =>
        stands (faces_cons.2 other)
      apply Reads.value [token] [] (.close closing)
      intro more head
      rw [List.singleton_append, blockRest_close _ closing]
      rfl

theorem block_reads {tokens : List Token}
    (below : ∀ us, us.length < tokens.length → AllRead us) : Reads Uses block tokens := by
  cases tokens with
  | nil => exact .ended rfl (.ended rfl) (block_eq [])
  | cons token rest =>
    by_cases opening : token.kind = .lbrace
    · apply (below rest (Nat.lt_succ_self _)).blockRest.extend [token] [] id
      · intro more _
        rw [List.singleton_append, block_eq, expect_found opening, Step.andThen_ok, Step.map_id]
        rfl
      · exact .block opening
    · apply Reads.fault [] (.unexpectedToken (.token .lbrace) token) rfl (.fault rfl)
      intro more
      rw [List.nil_append, block_eq]
      rw [expect_cons, if_neg opening]
      rfl

theorem allRead (tokens : List Token) : AllRead tokens := by
  induction size : tokens.length using Nat.strongRecOn generalizing tokens with
  | ind n ih =>
    have below : ∀ us, us.length < tokens.length → AllRead us :=
      fun us less => ih us.length (size ▸ less) us rfl
    have leading := leading_reads below
    have expression (level : Level) : Reads Uses (expression level) tokens :=
      (leading.andThen fun {left rest} le => climb_reads level left fun us less =>
        below us (Nat.lt_of_lt_of_le less le)).congr (expression_eq level)
    have list := argumentList_reads below expression
    have statement := statement_reads below expression
    exact {
      leading, expression, statement
      climb := fun level left => climb_reads level left below
      argumentList := list
      arguments := arguments_reads list
      block := block_reads below
      blockRest := blockRest_reads below statement }

end Monkey.Parse
