import Monkey.Proofs.Parse.Verdict

/-!
Every reader gives verdicts about the phrase of the grammar that it is there to read. As before one
induction on the length of the list covers all of them.
-/
namespace Monkey
open Supply

/-- The stratum of the expressions that are read at a level. Operators of the level itself are left
to the caller, and prefix operations are taken in everywhere. -/
def Level.stratum : Level → Level
  | .lowest => .equality
  | .equality => .comparison
  | .comparison => .sum
  | .sum => .product
  | .product => .unary
  | .unary => .unary
  | .call => .unary

theorem Level.stratum_le_unary (level : Level) : level.stratum ≤ .unary := by
  cases level <;> decide

theorem Level.stratum_le_of_lt {level above : Level} (lt : level < above) :
    level.stratum ≤ above := by
  cases level <;> cases above <;> first | decide | exact absurd lt (by decide)

theorem BinaryOp.stratum_level (op : BinaryOp) : op.level.stratum = op.level.tighter := by
  cases op <;> rfl

theorem Level.lowest_le (level : Level) : .lowest ≤ level := Nat.zero_le _

theorem Level.le_call (level : Level) : level ≤ .call := by cases level <;> decide

theorem Level.le_trans {a b c : Level} (ab : a ≤ b) (bc : b ≤ c) : a ≤ c := Nat.le_trans ab bc

theorem Level.eq_or_tighter_le {level above : Level} (le : level ≤ above) :
    level = above ∨ level.tighter ≤ above ∧ above.strength - level.tighter.strength <
      above.strength - level.strength := by
  cases level <;> cases above <;> first
    | exact .inl rfl
    | exact .inr (by decide)
    | exact absurd le (by decide)

namespace Grammar
open Token (Kind)

/-- What binds strongly may stand where looser operators are allowed. -/
theorem Expression.loosen {kinds : List Kind} {e : Expr} {level above : Level}
    (derived : Expression above kinds e) (le : level ≤ above) : Expression level kinds e := by
  induction gap : above.strength - level.strength using Nat.strongRecOn generalizing level with
  | ind n ih =>
    rcases Level.eq_or_tighter_le le with rfl | ⟨le, closer⟩
    · exact derived
    · exact .tighter (ih _ (gap ▸ closer) le rfl)

theorem expression_true (level : Level) : Expression level [.trueKeyword] (.bool true) :=
  (Expression.primary .true).loosen level.le_call

theorem block_empty : Block [.lbrace, .rbrace] [] := .braces .nil

end Grammar

namespace Parse
open Grammar
open Token (Kind)

theorem climb_stops {level : Level} {left e : Expr} {tokens rest : List Token}
    (step : climb level left tokens = .ok e rest) : ¬ Continues level (rest.map Token.kind) := by
  induction size : tokens.length using Nat.strongRecOn generalizing left tokens with
  | ind n ih =>
    by_cases continues : Continues level (tokens.map Token.kind)
    · cases tokens with
      | nil => exact absurd continues (not_continues_nil level)
      | cons token tail =>
        rcases continues_cons continues with ⟨op, spelled, stronger⟩ | ⟨kind, stronger⟩
        · rw [climb_operator spelled stronger] at step
          obtain ⟨right, middle, inner, step⟩ := Step.of_andThen_ok step
          have shorter := ((allRead tail).expression op.level).rest_length_le
          rw [inner] at shorter
          exact ih middle.length (size ▸ Nat.lt_succ_of_le shorter) step rfl
        · rw [climb_arguments kind stronger] at step
          obtain ⟨given, middle, inner, step⟩ := Step.of_andThen_ok step
          have shorter := (allRead tail).arguments.rest_length_le
          rw [inner] at shorter
          exact ih middle.length (size ▸ Nat.lt_succ_of_le shorter) step rfl
    · rw [climb_of_not_continues continues] at step
      cases step
      exact continues

theorem expression_stops {level : Level} {e : Expr} {tokens rest : List Token}
    (step : expression level tokens = .ok e rest) : ¬ Continues level (rest.map Token.kind) := by
  rw [expression_eq] at step
  obtain ⟨left, middle, -, step⟩ := Step.of_andThen_ok step
  exact climb_stops step

theorem statement_stops {value : Stmt} {tokens rest : List Token}
    (step : statement tokens = .ok value rest) : ¬ Continues .lowest (rest.map Token.kind) := by
  by_cases keyword : FacesKeyword tokens
  · cases tokens with
    | nil => exact absurd keyword (not_faces_nil _)
    | cons token tail =>
      rcases faces_cons.1 keyword with kind | kind
      · rw [statement_let kind] at step
        obtain ⟨name, middle, -, step⟩ := Step.of_andThen_ok step
        obtain ⟨⟨⟩, middle, -, step⟩ := Step.of_andThen_ok step
        obtain ⟨e, step, -⟩ := Step.of_map_ok step
        exact expression_stops step
      · rw [statement_return kind] at step
        obtain ⟨e, step, -⟩ := Step.of_map_ok step
        exact expression_stops step
  · rw [statement_eq_expression keyword] at step
    obtain ⟨e, step, -⟩ := Step.of_map_ok step
    exact expression_stops step

def Closed {α : Type} (closing : List Kind) (phrase : Phrase α) : Phrase α := fun kinds value =>
  ∃ us, kinds = us ++ closing ∧ phrase us value

structure AllJudged (tokens : List Token) : Prop where
  expression : ∀ level, Verdict (Expression level.stratum) (expression level) tokens
  argumentList : Verdict (Closed [.rparen] ArgumentList) argumentList tokens
  arguments : Verdict (Closed [.rparen] Arguments) arguments tokens
  block : Verdict Grammar.Block block tokens
  statement : Verdict Statement statement tokens
  blockRest : Verdict (Closed [.rbrace] Statements) blockRest tokens

theorem AllJudged.lowest {tokens : List Token} (judged : AllJudged tokens) :
    Verdict (Expression .lowest) (Parse.expression .lowest) tokens :=
  (judged.expression .lowest).mono fun derived => derived.loosen (Level.lowest_le _)

theorem parameterList_judged (tokens : List Token) :
    Verdict (Closed [.rparen] fun kinds names => names ≠ [] ∧ Parameters kinds names) parameterList
      tokens := by
  induction size : tokens.length using Nat.strongRecOn generalizing tokens with
  | ind n ih =>
    apply Verdict.congr _ parameterList_eq
    apply (identifier_judged tokens).andThen (identifier_reads tokens)
    · intro us name derived
      exact ⟨[.rparen], [name], us, rfl, by simp, by simp [Parameters, derived]⟩
    · intro us name rest shorter step derived
      subst derived
      apply Verdict.choice .comma
      · intro more less
        apply (ih more.length (by omega) more rfl).map (name :: ·)
        intro vs names spelled
        obtain ⟨us, rfl, nonempty, spelled⟩ := spelled
        obtain ⟨second, names, rfl⟩ := List.exists_cons_of_ne_nil nonempty
        have longer : Parameters (.ident name :: .comma :: us) (name :: second :: names) := by
          simp only [Parameters, List.map_cons] at spelled ⊢
          rw [spelled, List.intersperse_cons_cons]
        exact ⟨.ident name :: .comma :: us, rfl, by simp, longer⟩
      · apply (expect_judged .rparen rest).map
        intro vs _ closing
        exact ⟨[.ident name], by rw [closing], by simp, by simp [Parameters]⟩

theorem parameters_judged (tokens : List Token) :
    Verdict (Closed [.rparen] Parameters) parameters tokens := by
  have list : Verdict (Closed [.rparen] Parameters) parameterList tokens :=
    (parameterList_judged tokens).mono fun ⟨us, whole, _, spelled⟩ => ⟨us, whole, spelled⟩
  exact (Verdict.choice .rparen (fun _ => .of_ok ⟨[], rfl, rfl⟩ _) list).congr parameters_eq

abbrev JudgedUpTo (tokens : List Token) : Prop := ∀ {us}, us.length ≤ tokens.length → AllJudged us

theorem group_judged {rest : List Token} (below : JudgedUpTo rest) :
    Verdict (fun vs => Primary (.lparen :: vs)) (fun rest =>
      (expression .lowest rest).andThen fun inner rest =>
      (expect .rparen rest).map fun _ => inner) rest := by
  apply (below (Nat.le_refl _)).lowest.andThen ((allRead rest).expression .lowest)
  · intro us e inner
    exact ⟨[.rparen], e, .group inner⟩
  · intro us e left shorter step inner
    apply (expect_judged .rparen left).map
    intro vs _ closing
    rw [closing]
    exact .group inner

theorem conditional_judged {rest : List Token} (below : JudgedUpTo rest) :
    Verdict (fun vs => Primary (.ifKeyword :: vs)) (fun rest =>
      (expect .lparen rest).andThen fun _ rest =>
      (expression .lowest rest).andThen fun test rest =>
      (expect .rparen rest).andThen fun _ rest =>
      (block rest).andThen fun consequence =>
      ifTaken .elseKeyword
        (fun more => (block more).map fun alternative => .cond test consequence (some alternative))
        (.ok (.cond test consequence none))) rest := by
  apply (expect_judged .lparen rest).andThen (expect_reads (by decide) rest)
  · rintro _ - rfl
    exact ⟨.trueKeyword :: .rparen :: [.lbrace, .rbrace], _, .cond (expression_true _) block_empty⟩
  rintro _ - left le₁ - rfl
  apply (below le₁).lowest.andThen ((allRead left).expression .lowest)
  · intro us test condition
    exact ⟨.rparen :: [.lbrace, .rbrace], _, .cond condition block_empty⟩
  intro us test left le₂ step condition
  apply (expect_judged .rparen left).andThen (expect_reads (by decide) left)
  · rintro _ - rfl
    exact ⟨[.lbrace, .rbrace], _, .cond condition block_empty⟩
  rintro _ - left le₃ - rfl
  apply (below (by omega)).block.andThen (allRead left).block
  · intro vs code branch
    exact .of_phrase (Primary.cond condition branch)
  intro vs code left le₄ step branch
  apply Verdict.choice .elseKeyword
  · intro more less
    exact (below (by omega)).block.map _ fun other => .condElse condition branch other
  · apply Verdict.of_ok
    rw [List.append_nil]
    exact .cond condition branch

theorem function_judged {rest : List Token} (below : JudgedUpTo rest) :
    Verdict (fun vs => Primary (.fnKeyword :: vs)) (fun rest =>
      (expect .lparen rest).andThen fun _ rest =>
      (parameters rest).andThen fun names rest =>
      (block rest).map (.fn names)) rest := by
  apply (expect_judged .lparen rest).andThen (expect_reads (by decide) rest)
  · rintro _ - rfl
    exact ⟨.rparen :: [.lbrace, .rbrace], _, .fn parameters_nil block_empty⟩
  rintro _ - left le₁ - rfl
  apply (parameters_judged left).andThen (parameters_reads left)
  · rintro _ names ⟨us, rfl, spelled⟩
    have whole := Primary.fn spelled block_empty
    exact ⟨[.lbrace, .rbrace], .fn names [], by simpa using whole⟩
  rintro _ names left le₂ - ⟨us, rfl, spelled⟩
  apply (below (by omega)).block.map
  intro vs code body
  simpa using Primary.fn spelled body

theorem operand_judged {token : Token} {rest : List Token} (starts : StartsExpression token.kind)
    (readable : ∀ digits, token.kind = .int digits → ∃ value, Numeral.read digits = .ok value)
    (alone : ∀ op : UnaryOp, token.kind ≠ op.kind) (below : JudgedUpTo rest) :
    Verdict (fun vs => Primary (token.kind :: vs)) (operand token) rest := by
  rw [funext (operand_eq token)]
  cases kind : token.kind <;> simp only [kind, StartsExpression] at starts alone ⊢
  case ident name => exact .of_ok (.ident name) rest
  case string contents => exact .of_ok (.string contents) rest
  case trueKeyword => exact .of_ok .true rest
  case falseKeyword => exact .of_ok .false rest
  case int digits =>
    obtain ⟨value, read⟩ := readable digits kind
    simp only [read]
    exact .of_ok (.int read) rest
  case minus => exact absurd rfl (alone .minus)
  case bang => exact absurd rfl (alone .bang)
  case lparen => exact group_judged below
  case ifKeyword => exact conditional_judged below
  case fnKeyword => exact function_judged below

/-- The operand in front binds as strongly as `level` at least, and nothing behind it can carry it
on that binds more strongly. -/
structure Leads (level : Level) (tokens : List Token) : Prop where
  le : .unary ≤ level
  verdict : Verdict (Expression level) leading tokens
  stops : ∀ {e rest}, leading tokens = .ok e rest → ¬ Continues level (rest.map Token.kind)

theorem leads_call {tokens : List Token} (verdict : Verdict (Expression .call) leading tokens) :
    Leads .call tokens :=
  ⟨by decide, verdict, fun _ => not_continues_call _⟩

theorem leads_unary {token : Token} {rest : List Token} {op : UnaryOp}
    (kind : token.kind = op.kind) (below : JudgedUpTo rest) : Leads .unary (token :: rest) where
  le := Nat.le_refl _
  verdict := by
    apply Verdict.after_token _ (operand_unary kind)
    apply ((below (Nat.le_refl _)).expression .unary).map
    intro kinds e inner
    rw [kind]
    exact inner.prefixed op
  stops result := by
    rw [leading_cons, operand_unary kind] at result
    obtain ⟨e, result, -⟩ := Step.of_map_ok result
    exact expression_stops result

theorem leading_judged {tokens : List Token}
    (below : ∀ us, us.length < tokens.length → AllJudged us) : ∃ level, Leads level tokens := by
  have viable : Viable (Expression .call) [] := ⟨_, _, expression_true .call⟩
  cases tokens with
  | nil => exact ⟨.call, leads_call (.lacks viable rfl rfl)⟩
  | cons token rest =>
    have below : JudgedUpTo rest := fun le => below _ (Nat.lt_succ_of_le le)
    by_cases unary : ∃ op : UnaryOp, token.kind = op.kind
    · obtain ⟨op, kind⟩ := unary
      exact ⟨.unary, leads_unary kind below⟩
    rcases operand_begins_or_refuses token with ⟨starts, readable⟩ | ⟨error, carries, refused⟩
    · have judged := operand_judged starts readable (fun op kind => unary ⟨op, kind⟩) below
      exact ⟨.call, leads_call ((judged.mono .primary).after_token fun more => rfl)⟩
    · exact ⟨.call, leads_call (.refused error viable carries refused)⟩

theorem call_continues {level : Level} {rest : List Kind}
    (stops : ¬ Continues level (.lparen :: rest)) : level = .call := by
  apply Classical.byContradiction
  intro other
  apply stops
  have weaker : level < .call := by cases level <;> first | decide | exact absurd rfl other
  exact ⟨.arguments, rfl, weaker⟩

abbrev CarriesOn (level : Level) (tokens : List Token) : Prop :=
  ∀ {above : Level} {us : List Kind} {left : Expr} {more : List Token},
    more.length < tokens.length → Expression above us left →
    ¬ Continues above (more.map Token.kind) → level.stratum ≤ above →
    Verdict (fun vs => Expression level.stratum (us ++ vs)) (climb level left) more

theorem climb_judged_operator {above level : Level} {us : List Kind} {left : Expr} {token : Token}
    {rest : List Token} {op : BinaryOp} (derived : Expression above us left)
    (stops : ¬ Continues above (token.kind :: rest.map Token.kind))
    (spelled : BinaryOp.ofKind? token.kind = some op) (stronger : level < op.level)
    (judged : AllJudged rest) (again : CarriesOn level (token :: rest)) :
    Verdict (fun vs => Expression level.stratum (us ++ vs)) (climb level left) (token :: rest) := by
  have weaker : op.level ≤ above := by
    apply Level.not_lt.1
    intro lt
    have continues : Continuation.ofKind? token.kind = some (.operator op) := by
      simp [Continuation.ofKind?, operator_ne_lparen spelled, spelled]
    exact stops ⟨.operator op, continues, lt⟩
  have le := Level.stratum_le_of_lt stronger
  have operation {vs : List Kind} {right : Expr} (second : Expression op.level.stratum vs right) :
      Expression op.level (us ++ token.kind :: vs) (.binary op left right) := by
    rw [op.stratum_level] at second
    exact .operation spelled (derived.loosen weaker) second
  apply Verdict.after_token _ fun more => climb_operator spelled stronger
  apply (judged.expression op.level).andThen ((allRead rest).expression op.level)
  · intro vs right second
    exact .of_phrase ((operation second).loosen le)
  · intro vs right more shorter step second
    have less : more.length < (token :: rest).length := Nat.lt_succ_of_le shorter
    have carried := again less (operation second) (expression_stops step) le
    exact carried.mono fun derived => by simpa using derived

theorem climb_judged_arguments {above level : Level} {us : List Kind} {left : Expr} {token : Token}
    {rest : List Token} (derived : Expression above us left)
    (stops : ¬ Continues above (token.kind :: rest.map Token.kind)) (kind : token.kind = .lparen)
    (stronger : level < .call) (le : level.stratum ≤ above) (judged : AllJudged rest)
    (again : CarriesOn level (token :: rest)) :
    Verdict (fun vs => Expression level.stratum (us ++ vs)) (climb level left) (token :: rest) := by
  rw [kind] at stops
  have atCall := call_continues stops
  subst atCall
  have call {vs : List Kind} {given : List Expr} (list : Closed [.rparen] Arguments vs given) :
      Expression .call (us ++ token.kind :: vs) (.call left given) := by
    obtain ⟨vs, rfl, list⟩ := list
    rw [kind]
    exact .call derived list
  apply Verdict.after_token _ fun more => climb_arguments kind stronger
  apply judged.arguments.andThen (allRead rest).arguments
  · intro vs given list
    exact .of_phrase ((call list).loosen le)
  · intro vs given more shorter step list
    have less : more.length < (token :: rest).length := Nat.lt_succ_of_le shorter
    have carried := again less (call list) (not_continues_call _) le
    exact carried.mono fun derived => by simpa using derived

/-- An expression is carried on by operators that are no stronger than what it is made of, so that
it becomes their left operand as a whole. -/
theorem climb_judged {above level : Level} {us : List Kind} {left : Expr} {tokens : List Token}
    (derived : Expression above us left) (stops : ¬ Continues above (tokens.map Token.kind))
    (le : level.stratum ≤ above) (below : ∀ us, us.length < tokens.length → AllJudged us) :
    Verdict (fun vs => Expression level.stratum (us ++ vs)) (climb level left) tokens := by
  -- each turn makes all that was read so far the left operand, and leaves fewer tokens
  induction size : tokens.length using Nat.strongRecOn generalizing above us left tokens with
  | ind n ih =>
    have again : CarriesOn level tokens := by
      intro above us left more less derived stops le
      apply ih more.length (size ▸ less) derived stops le _ rfl
      intro us shorter
      exact below us (Nat.lt_trans shorter less)
    by_cases continues : Continues level (tokens.map Token.kind)
    · cases tokens with
      | nil => exact absurd continues (not_continues_nil level)
      | cons token rest =>
        have judged := below rest (Nat.lt_succ_self _)
        rcases continues_cons continues with ⟨op, spelled, stronger⟩ | ⟨kind, stronger⟩
        · exact climb_judged_operator derived stops spelled stronger judged again
        · exact climb_judged_arguments derived stops kind stronger le judged again
    · apply Verdict.reads [] left _ (climb_of_not_continues continues)
      rw [List.map_nil, List.append_nil]
      exact derived.loosen le

theorem expression_judged (level : Level) {tokens : List Token}
    (below : ∀ us, us.length < tokens.length → AllJudged us) :
    Verdict (Expression level.stratum) (expression level) tokens := by
  obtain ⟨above, leads⟩ := leading_judged below
  have le : level.stratum ≤ above := Level.le_trans level.stratum_le_unary leads.le
  apply Verdict.congr _ (expression_eq level)
  apply leads.verdict.andThen (allRead tokens).leading
  · intro us left derived
    exact .of_phrase (derived.loosen le)
  · intro us left rest shorter step derived
    apply climb_judged derived (leads.stops step) le
    intro vs less
    exact below vs (Nat.lt_of_lt_of_le less shorter)

theorem argumentList_judged {tokens : List Token}
    (below : ∀ us, us.length < tokens.length → AllJudged us)
    (here : Verdict (Expression .lowest) (expression .lowest) tokens) :
    Verdict (Closed [.rparen] ArgumentList) argumentList tokens := by
  apply Verdict.congr _ argumentList_eq
  apply here.andThen ((allRead tokens).expression .lowest)
  · intro us argument derived
    exact ⟨[.rparen], [argument], us, rfl, .last derived⟩
  · intro us argument rest shorter step derived
    apply Verdict.choice .comma
    · intro more less
      apply (below more (by omega)).argumentList.map
      intro _ given list
      obtain ⟨vs, rfl, others⟩ := list
      exact ⟨us ++ .comma :: vs, by simp, .more derived others⟩
    · apply (expect_judged .rparen rest).map
      intro vs _ closing
      exact ⟨us, by rw [closing], .last derived⟩

theorem arguments_judged {tokens : List Token}
    (list : Verdict (Closed [.rparen] ArgumentList) argumentList tokens) :
    Verdict (Closed [.rparen] Arguments) arguments tokens := by
  have present : Verdict (Closed [.rparen] Arguments) argumentList tokens :=
    list.mono fun ⟨us, whole, list⟩ => ⟨us, whole, .some list⟩
  exact (Verdict.choice .rparen (fun _ => .of_ok ⟨[], rfl, .none⟩ _) present).congr arguments_eq

theorem block_judged {tokens : List Token}
    (below : ∀ us, us.length < tokens.length → AllJudged us) :
    Verdict Grammar.Block block tokens := by
  have viable : Viable Grammar.Block [] := ⟨_, _, block_empty⟩
  cases tokens with
  | nil => exact .lacks viable rfl (congrArg Step.first? (block_eq []))
  | cons token rest =>
    by_cases opening : token.kind = .lbrace
    · have inside := (below rest (Nat.lt_succ_self _)).blockRest
      apply Verdict.after_token
      · apply inside.mono
        intro vs code closed
        obtain ⟨us, rfl, inner⟩ := closed
        rw [opening]
        exact .braces inner
      · intro more
        rw [block_eq, expect_found opening, Step.andThen_ok]
    · apply Verdict.refused (.unexpectedToken (.token .lbrace) token) viable rfl
      intro more
      rw [block_eq, expect_cons, if_neg opening, Step.andThen_fail]

theorem statement_judged {tokens : List Token}
    (below : ∀ us, us.length < tokens.length → AllJudged us)
    (here : Verdict (Expression .lowest) (expression .lowest) tokens) :
    Verdict Statement statement tokens := by
  by_cases keyword : FacesKeyword tokens
  · cases tokens with
    | nil => exact absurd keyword (not_faces_nil _)
    | cons token rest =>
      have below : JudgedUpTo rest := fun le => below _ (Nat.lt_succ_of_le le)
      have completed (name : String) : Statement (.letKeyword :: .ident name :: .assign ::
          [.trueKeyword]) (.letStmt name (.bool true)) := .letStmt name (expression_true _)
      rcases faces_cons.1 keyword with kind | kind
      · apply Verdict.after_token _ (statement_let kind)
        rw [kind]
        apply (identifier_judged rest).andThen (identifier_reads rest)
        · rintro _ name rfl
          exact ⟨_, _, completed name⟩
        rintro _ name left le₁ - rfl
        apply (expect_judged .assign left).andThen (expect_reads (by decide) left)
        · rintro _ - rfl
          exact ⟨_, _, completed name⟩
        rintro _ - left le₂ - rfl
        exact (below (by omega)).lowest.map _ fun value => .letStmt name value
      · apply Verdict.after_token _ (statement_return kind)
        rw [kind]
        exact (below (Nat.le_refl _)).lowest.map _ .returnStmt
  · have verdict : Verdict Statement (fun tokens => (expression .lowest tokens).map .exprStmt)
        tokens := here.map _ .exprStmt
    apply verdict.extend [] id _ id
    intro more head
    rw [List.nil_append, Step.map_id]
    exact statement_eq_expression fun faces => keyword (faces.congr head.symm)

theorem continues_append {level : Level} {kinds : List Kind} (more : List Kind)
    (continues : Continues level kinds) : Continues level (kinds ++ more) := by
  cases kinds with
  | nil => exact absurd continues (not_continues_nil level)
  | cons kind rest => exact continues

theorem not_continues_front {level : Level} {kinds us more closing : List Kind}
    (nonempty : kinds ≠ []) (stops : ¬ Continues level kinds)
    (same : kinds ++ more = us ++ closing) : ¬ Continues level us := by
  obtain ⟨kind, rest, rfl⟩ := List.exists_cons_of_ne_nil nonempty
  cases us with
  | nil => exact not_continues_nil level
  | cons other us =>
    obtain ⟨rfl, -⟩ := List.cons.inj same
    exact stops

def Fresh (kinds : List Kind) (code : List Stmt) : Prop :=
  Statements kinds code ∧ ¬ Continues .lowest kinds

theorem viable_fresh {closing kinds : List Kind} (stops : ¬ Continues .lowest kinds)
    (viable : Viable (Closed closing Statements) kinds) : Viable (Closed closing Fresh) kinds := by
  by_cases nonempty : kinds = []
  · subst nonempty
    exact ⟨closing, [], [], rfl, .nil, not_continues_nil _⟩
  · obtain ⟨more, code, us, whole, derived⟩ := viable
    exact ⟨more, code, us, whole, derived, not_continues_front nonempty stops whole⟩

/-- Where nothing is carried on, the tokens behind a statement are judged as statements that carry
nothing on. -/
theorem Verdict.fresh {closing : List Kind} {read : List Token → Step (List Token) Block}
    {tokens : List Token} (verdict : Verdict (Closed closing Statements) read tokens)
    (stops : ¬ Continues .lowest (tokens.map Token.kind)) :
    Verdict (Closed closing Fresh) read tokens := by
  cases verdict with
  | @reads used rest code derived step =>
    rw [List.map_append] at stops
    have stops := mt (continues_append _) stops
    obtain ⟨us, whole, derived⟩ := derived
    rw [whole] at stops
    have fresh : Fresh us code := ⟨derived, mt (continues_append closing) stops⟩
    exact .reads used code ⟨us, whole, fresh⟩ step
  | @refuses front rest token error viable carries first =>
    rw [List.map_append] at stops
    exact .refuses front error (viable_fresh (mt (continues_append _) stops) viable) carries first
  | lacks viable carries first => exact .lacks (viable_fresh stops viable) carries first

structure Sequences (p : Kind → Prop) (read : List Token → Step (List Token) Block) : Prop where
  of_ok : ∀ {tokens value left}, Faces p tokens → statement tokens = .ok value left →
    read tokens = (read (dropSemicolon left)).map (value :: ·)
  of_first : ∀ {tokens error}, Faces p tokens → (statement tokens).first? = some error →
    (read tokens).first? = some error

theorem sequence_judged {p : Kind → Prop} {closing : List Kind}
    {read : List Token → Step (List Token) Block}
    {tokens : List Token} (sequences : Sequences p read) (stands : Faces p tokens)
    (here : Verdict Statement statement tokens)
    (others : ∀ us, us.length < tokens.length → Verdict (Closed closing Statements) read us) :
    Verdict (Closed closing Statements) read tokens := by
  have carry {kinds : List Kind} (viable : Viable Statement kinds) :
      Viable (Closed closing Statements) kinds := by
    obtain ⟨more, value, derived⟩ := viable
    have alone := Statements.bare derived (not_continues_nil _) .nil
    rw [List.append_nil] at alone
    exact ⟨more ++ closing, [value], kinds ++ more, (List.append_assoc ..).symm, alone⟩
  cases here with
  | @reads used left value derived step =>
    have nonempty : used ++ left ≠ [] := by
      intro empty
      rw [empty] at stands
      exact not_faces_nil p stands
    have shorter := statement_rest_length_lt nonempty
    rw [step] at shorter
    have goesOn (more : List Token) (head : more.head? = left.head?) :
        read (used ++ more) = (read (dropSemicolon more)).map (value :: ·) :=
      sequences.of_ok (stands.congr (head?_append_congr head))
        (((allRead _).statement).exchange step head)
    cases found : take? .semicolon left with
    | some rest =>
      -- a semicolon ends the statement, whatever the next one begins with
      obtain ⟨token, rfl, kind⟩ := eq_cons_of_take? found
      rw [List.append_cons]
      apply (others rest (Nat.lt_of_succ_lt shorter)).extend _ (value :: ·)
      · intro more head
        rw [← List.append_cons, goesOn (token :: more) rfl, dropSemicolon_found kind]
      · rintro _ code ⟨us, rfl, inner⟩
        exact ⟨used.map Token.kind ++ .semicolon :: us, by simp [kind], .semicolon derived inner⟩
    | none =>
      -- the statement stopped by itself, so what follows carries nothing on
      have fresh := (others left shorter).fresh (statement_stops step)
      apply fresh.extend _ (value :: ·)
      · intro more head
        rw [goesOn more head, dropSemicolon, take?_eq_none_congr head found, Option.getD_none]
      · rintro _ code ⟨us, rfl, inner, stops⟩
        exact ⟨used.map Token.kind ++ us, by simp, .bare derived stops inner⟩
  | @refuses front rest token error viable carries first =>
    apply Verdict.refuses front error (carry viable) carries
    intro more
    exact sequences.of_first (stands.congr (head?_append_congr rfl)) (first more)
  | lacks viable carries first =>
    exact .lacks (carry viable) carries (sequences.of_first stands first)

theorem blockRest_sequences : Sequences (· ≠ .rbrace) blockRest where
  of_ok stands step := blockRest_of_ok stands step
  of_first {tokens error} stands first := by
    cases step : statement tokens with
    | mk result recorded left =>
      rw [step] at first
      cases result with
      | ok value =>
        change recorded.head? = some error at first
        rw [blockRest_of_ok stands step, Step.first?_after, first, Option.some_or]
      | error last =>
        change (recorded ++ [last]).head? = some error at first
        rw [blockRest_of_error stands step]
        cases resumeInBlock last left with
        | abandoned => exact first
        | closed => exact first
        | continues more => simp only [Step.first?_after, first, Option.some_or]

theorem blockRest_judged {tokens : List Token}
    (below : ∀ us, us.length < tokens.length → AllJudged us)
    (here : Verdict Statement statement tokens) :
    Verdict (Closed [.rbrace] Statements) blockRest tokens := by
  by_cases stands : FacesStatement tokens
  · exact sequence_judged blockRest_sequences stands here fun us less => (below us less).blockRest
  · cases tokens with
    | nil => exact .lacks ⟨[.rbrace], [], [], rfl, .nil⟩ rfl (congrArg Step.first? blockRest_nil)
    | cons token rest =>
      have closing : token.kind = .rbrace := Decidable.not_not.1 fun other =>
        stands (faces_cons.2 other)
      apply Verdict.reads [token] [] ⟨[], by simp [closing], .nil⟩
      rw [List.singleton_append, blockRest_close _ closing]

theorem allJudged (tokens : List Token) : AllJudged tokens := by
  induction size : tokens.length using Nat.strongRecOn generalizing tokens with
  | ind n ih =>
    have below : ∀ us, us.length < tokens.length → AllJudged us :=
      fun us less => ih us.length (size ▸ less) us rfl
    have expression (level : Level) := expression_judged level below
    have lowest : Verdict (Expression .lowest) (Parse.expression .lowest) tokens :=
      (expression .lowest).mono fun derived => derived.loosen (Level.lowest_le _)
    have list := argumentList_judged below lowest
    have statement := statement_judged below lowest
    exact {
      expression, statement
      argumentList := list
      arguments := arguments_judged list
      block := block_judged below
      blockRest := blockRest_judged below statement }

def everything (tokens : List Token) : Step (List Token) Program :=
  ⟨.ok (statements tokens).program, (statements tokens).errors, (statements tokens).rest⟩

theorem everything_sequences : Sequences (fun _ => True) everything where
  of_ok {tokens value left} stands step := by
    have nonempty : tokens ≠ [] := by
      rintro rfl
      exact not_faces_nil _ stands
    simp only [everything, statements_of_ok (peek?_ne_none nonempty) step]
    rfl
  of_first {tokens error} stands first := by
    have nonempty : tokens ≠ [] := by
      rintro rfl
      exact not_faces_nil _ stands
    change (statements tokens).errors.head? = some error
    cases step : statement tokens with
    | mk result recorded left =>
      rw [step] at first
      cases result with
      | ok value =>
        change recorded.head? = some error at first
        rw [statements_of_ok (peek?_ne_none nonempty) step, Reading.addStatement,
          List.head?_append, first, Option.some_or]
      | error last =>
        change (recorded ++ [last]).head? = some error at first
        rw [statements_of_error (peek?_ne_none nonempty) step, Reading.addError, List.append_cons,
          List.head?_append, first, Option.some_or]

theorem everything_judged (tokens : List Token) :
    Verdict (Closed [] Statements) everything tokens := by
  induction size : tokens.length using Nat.strongRecOn generalizing tokens with
  | ind n ih =>
    cases tokens with
    | nil =>
      apply Verdict.reads [] [] ⟨[], rfl, .nil⟩
      rw [List.nil_append, everything, statements_nil]
      rfl
    | cons token rest =>
      have stands : Faces (fun _ => True) (token :: rest) := faces_cons.2 trivial
      apply sequence_judged everything_sequences stands (allJudged _).statement
      intro us less
      exact ih us.length (size ▸ less) us rfl

end Parse

end Monkey
