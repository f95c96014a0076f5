import Monkey.Proofs.Render.Rereading

/-!
Renderings that are not read back. If the test of some conditional is no operation, the reader that
comes to that conditional finds no opening parenthesis behind its keyword, or no brace behind the
parentheses that it took for those of the test. That mistake is never taken back, so it shows in the
whole program.
-/
namespace Monkey
open Supply
open Token (Kind)
open Grammar Parse

variable {α β : Type}

def Step.Fails (step : Step (List Token) α) : Prop := ∃ error, step.first? = some error

theorem Step.Fails.andThen {step : Step (List Token) α} (fails : step.Fails)
    (next : α → List Token → Step (List Token) β) : (step.andThen next).Fails := by
  obtain ⟨error, first⟩ := fails
  exact ⟨error, first?_andThen first next⟩

theorem Step.Fails.map {step : Step (List Token) α} (fails : step.Fails) (f : α → β) :
    (step.map f).Fails := by
  obtain ⟨error, first⟩ := fails
  exact ⟨error, (first?_map f step).trans first⟩

theorem fails_expect {kind : Kind} {token : Token} (other : token.kind ≠ kind) (rest : List Token) :
    (expect kind (token :: rest)).Fails := by
  rw [expect_cons, if_neg other]
  exact ⟨_, Step.first?_fail _ _⟩

theorem fails_expression {level : Level} {token : Token} {rest : List Token}
    (fails : (operand token rest).Fails) : (expression level (token :: rest)).Fails := by
  rw [expression_cons]
  exact fails.andThen _

theorem fails_group {token : Token} {rest : List Token} (kind : token.kind = .lparen)
    (fails : (expression .lowest rest).Fails) : (operand token rest).Fails := by
  rw [operand_eq, kind]
  exact fails.andThen _

def readBranches (test : Expr) (tokens : List Token) : Step (List Token) Expr :=
  (expect .rparen tokens).andThen fun _ rest =>
  (block rest).andThen fun consequence =>
  ifTaken .elseKeyword
    (fun more => (block more).map fun alternative => .cond test consequence (some alternative))
    (.ok (.cond test consequence none))

theorem operand_if {token opening : Token} (kind : token.kind = .ifKeyword)
    (openKind : opening.kind = .lparen) (rest : List Token) :
    operand token (opening :: rest) = (expression .lowest rest).andThen readBranches := by
  rw [operand_eq, kind]
  simp only
  rw [expect_found openKind, Step.andThen_ok]
  rfl

theorem fails_if {token first : Token} (kind : token.kind = .ifKeyword)
    (other : first.kind ≠ .lparen) (rest : List Token) : (operand token (first :: rest)).Fails := by
  rw [operand_eq, kind]
  exact (fails_expect other rest).andThen _

theorem block_open {token : Token} (kind : token.kind = .lbrace) (rest : List Token) :
    block (token :: rest) = blockRest rest := by
  rw [block_eq, expect_found kind, Step.andThen_ok]

theorem fails_block {token : Token} (other : token.kind ≠ .lbrace) (rest : List Token) :
    (block (token :: rest)).Fails := by
  rw [block_eq]
  exact (fails_expect other rest).andThen _

/-- An expression whose tests operate is read back in front of any token that belongs to no other
branch. -/
theorem Expr.read_back {e : Expr} (writable : e.Writable) (tests : e.TestsOperate) {level : Level}
    (lt : level < .call) {tokens rest : List Token} {token : Token}
    (spelled : tokens.map Token.kind = e.kinds) (noElse : token.kind ≠ .elseKeyword) :
    expression level (tokens ++ token :: rest) = climb level e (token :: rest) :=
  (e.derived writable tests).1.read spelled (.inl lt) (ends_call noElse)

theorem Expr.inside_read_back {e : Expr} (writable : e.Writable) (tests : e.TestsOperate)
    (operation : e.IsOperation) {tokens rest : List Token} {close : Token}
    (spelled : tokens.map Token.kind = e.inside) (closing : close.kind = .rparen) :
    expression .lowest (tokens ++ close :: rest) = .ok e (close :: rest) := by
  have ends : Ends .lowest (close :: rest) :=
    ends_of_kind closing (by decide)
  exact lowest ((e.derived writable tests).2 operation).read spelled ends

/-- Where reading the rendering of `e` goes wrong. -/
structure Expr.Refused (e : Expr) : Prop where
  whole : ¬ e.TestsOperate → ∀ {level : Level} {tokens : List Token} (rest : List Token),
    level < .call → tokens.map Token.kind = e.kinds → (expression level (tokens ++ rest)).Fails
  inside : ¬ e.TestsOperate → e.IsOperation → ∀ {tokens : List Token} (rest : List Token),
    tokens.map Token.kind = e.inside → (expression .lowest (tokens ++ rest)).Fails
  test : ¬ e.IsOperation → ∀ {token : Token} {tokens : List Token} (rest : List Token),
    token.kind = .ifKeyword → tokens.map Token.kind = e.kinds →
    (operand token (tokens ++ rest)).Fails

theorem refused_of_inside {e : Expr} (operation : e.IsOperation)
    (inside : ¬ e.TestsOperate → ∀ {tokens : List Token} (rest : List Token),
      tokens.map Token.kind = e.inside → (expression .lowest (tokens ++ rest)).Fails) :
    e.Refused where
  whole tests level tokens rest _ spelled := by
    rw [e.kinds_of_isOperation operation] at spelled
    obtain ⟨opening, tail, rfl, kind, spelled⟩ := List.map_eq_cons_iff.1 spelled
    obtain ⟨us, last, rfl, usKinds, -⟩ := List.map_eq_append_iff.1 spelled
    rw [List.cons_append, List.append_assoc]
    exact fails_expression (fails_group kind (inside tests _ usKinds))
  inside tests _ _ rest spelled := inside tests rest spelled
  test other := absurd operation other

/-- What begins with another token than a parenthesis is refused as a test. -/
theorem fails_test_of_start {kind : Kind} {kinds : List Kind} {token : Token}
    {tokens : List Token} (other : kind ≠ .lparen) (keyword : token.kind = .ifKeyword)
    (spelled : tokens.map Token.kind = kind :: kinds) (rest : List Token) :
    (operand token (tokens ++ rest)).Fails := by
  obtain ⟨first, tail, rfl, rfl, -⟩ := List.map_eq_cons_iff.1 spelled
  exact fails_if keyword other _

theorem refused_of_operates {e : Expr} {kind : Kind} {kinds : List Kind} (tests : e.TestsOperate)
    (spelled : e.kinds = kind :: kinds) (other : kind ≠ .lparen) : e.Refused where
  whole bad := absurd tests bad
  inside bad := absurd tests bad
  test _ _ _ rest keyword same := fails_test_of_start other keyword (same.trans spelled) rest

theorem unary_refused (op : UnaryOp) {operand : Expr} (refused : operand.Refused) :
    (Expr.unary op operand).Refused := by
  have operation : (Expr.unary op operand).IsOperation := trivial
  apply refused_of_inside operation
  intro tests tokens rest spelled
  have inner : ¬ operand.TestsOperate := fun good => tests ⟨trivial, good⟩
  obtain ⟨token, us, rfl, kind, usKinds⟩ := List.map_eq_cons_iff.1 spelled
  apply fails_expression
  rw [operand_unary kind]
  exact (refused.whole inner rest (by decide) usKinds).map _

theorem binary_refused (op : BinaryOp) {left right : Expr} (writable : left.Writable)
    (first : left.Refused) (second : right.Refused) : (Expr.binary op left right).Refused := by
  have operation : (Expr.binary op left right).IsOperation := trivial
  apply refused_of_inside operation
  intro tests tokens rest spelled
  obtain ⟨us, token, vs, rfl, usKinds, kind, vsKinds⟩ := split_at_kind spelled
  rw [List.append_assoc, List.cons_append]
  by_cases leftTests : left.TestsOperate
  · have inner : ¬ right.TestsOperate := fun good => tests ⟨trivial, leftTests, good⟩
    have sign : BinaryOp.ofKind? token.kind = some op := by rw [kind, op.ofKind?_kind]
    have noElse : token.kind ≠ .elseKeyword := by
      rw [kind]
      cases op <;> decide
    rw [Expr.read_back writable leftTests (by decide) usKinds noElse,
      climb_operator sign (by cases op <;> decide)]
    exact (second.whole inner rest (by cases op <;> decide) vsKinds).andThen _
  · exact first.whole leftTests _ (by decide) usKinds

def AllRefused (code : List Stmt) : Prop :=
  ¬ AllTestsOperate code → ∀ {p : Kind → Prop} {read : List Token → Step (List Token) Block},
    Sequences p read → (∀ kind, StartsStatement kind → p kind) → ∀ {tokens : List Token}
    (rest : List Token), tokens.map Token.kind = allKinds code → (read (tokens ++ rest)).Fails

def EachRefused (given : List Expr) : Prop :=
  ¬ EachTestsOperate given → ∀ {tokens : List Token} (rest : List Token),
    tokens.map Token.kind = eachKinds given → (argumentList (tokens ++ rest)).Fails

def Stmt.Refused (statement : Stmt) : Prop :=
  ¬ statement.TestsOperate → ∀ {tokens : List Token} (rest : List Token),
    tokens.map Token.kind = statement.kinds → (Parse.statement (tokens ++ rest)).Fails

theorem AllRefused.block {code : List Stmt} (refused : AllRefused code)
    (tests : ¬ AllTestsOperate code) {opening : Token} {tokens : List Token}
    (openKind : opening.kind = .lbrace) (spelled : tokens.map Token.kind = allKinds code)
    (rest : List Token) : (block (opening :: (tokens ++ rest))).Fails := by
  rw [block_open openKind]
  exact refused tests blockRest_sequences (fun _ starts => starts.ne.1) rest spelled

theorem fails_consequence {test : Expr} {code : List Stmt} (refused : AllRefused code)
    (tests : ¬ AllTestsOperate code) {close opening : Token} {tokens : List Token}
    (closing : close.kind = .rparen) (openKind : opening.kind = .lbrace)
    (spelled : tokens.map Token.kind = allKinds code) (rest : List Token) :
    (readBranches test (close :: opening :: (tokens ++ rest))).Fails := by
  rw [readBranches, expect_found closing, Step.andThen_ok]
  exact (refused.block tests openKind spelled rest).andThen _

theorem fails_alternative {test : Expr} {code other : List Stmt} (writable : AllWritable code)
    (good : AllTestsOperate code) (refused : AllRefused other) (tests : ¬ AllTestsOperate other)
    {close opening closeBrace keyword second : Token} {us vs : List Token}
    (closing : close.kind = .rparen) (openKind : opening.kind = .lbrace)
    (usKinds : us.map Token.kind = allKinds code) (closeKind : closeBrace.kind = .rbrace)
    (isElse : keyword.kind = .elseKeyword) (secondKind : second.kind = .lbrace)
    (vsKinds : vs.map Token.kind = allKinds other) (rest : List Token) :
    (readBranches test (close :: opening ::
      (us ++ closeBrace :: keyword :: second :: (vs ++ rest)))).Fails := by
  have branch : blockRest (us ++ closeBrace :: keyword :: second :: (vs ++ rest)) =
      .ok code (keyword :: second :: (vs ++ rest)) :=
    (allDerived code writable good).read usKinds closeKind
  rw [readBranches, expect_found closing, Step.andThen_ok, block_open openKind, branch,
    Step.andThen_ok]
  rw [ifTaken_found isElse]
  exact (refused.block tests secondKind vsKinds rest).map _

/-- A conditional is refused if its test is, or if its branches are behind a test that is not. -/
theorem fails_cond {test : Expr} {token : Token} {tokens tail : List Token}
    (keyword : token.kind = .ifKeyword) (writable : test.Writable) (refused : test.Refused)
    (spelled : tokens.map Token.kind = test.kinds)
    (branches : test.IsOperation → test.TestsOperate → ∀ {close : Token}, close.kind = .rparen →
      (readBranches test (close :: tail)).Fails) : (operand token (tokens ++ tail)).Fails := by
  by_cases operation : test.IsOperation
  · rw [test.kinds_of_isOperation operation] at spelled
    obtain ⟨opening, inner, rfl, openKind, spelled⟩ := List.map_eq_cons_iff.1 spelled
    obtain ⟨us, close, rfl, usKinds, closing⟩ := split_last_kind spelled
    rw [List.cons_append, List.append_assoc, List.singleton_append, operand_if keyword openKind]
    by_cases tests : test.TestsOperate
    · rw [Expr.inside_read_back writable tests operation usKinds closing, Step.andThen_ok]
      exact branches operation tests closing
    · exact (refused.inside tests operation _ usKinds).andThen _
  · exact refused.test operation tail keyword spelled

theorem cond_refused {test : Expr} {code : List Stmt} (writable : test.Writable)
    (refused : test.Refused) (branch : AllRefused code) : (Expr.cond test code none).Refused where
  whole bad level tokens rest _ spelled := by
    rw [Expr.kinds] at spelled
    obtain ⟨token, tail, rfl, keyword, spelled⟩ := List.map_eq_cons_iff.1 spelled
    obtain ⟨us, opening, tail, rfl, usKinds, openKind, spelled⟩ := split_at_kind spelled
    obtain ⟨vs, last, rfl, vsKinds, spelled⟩ := List.map_eq_append_iff.1 spelled
    simp only [List.cons_append, List.append_assoc]
    apply fails_expression
    apply fails_cond keyword writable refused usKinds
    intro operation tests close closing
    have inner : ¬ AllTestsOperate code := fun good => bad ⟨operation, tests, good⟩
    exact fails_consequence branch inner closing openKind vsKinds _
  inside _ operation := operation.elim
  test _ _ _ rest keyword same := fails_test_of_start (by decide) keyword same rest

theorem condElse_refused {test : Expr} {code other : List Stmt} (writable : test.Writable)
    (codeWritable : AllWritable code) (refused : test.Refused) (branch : AllRefused code)
    (alternative : AllRefused other) : (Expr.cond test code (some other)).Refused where
  whole bad level tokens rest _ spelled := by
    rw [Expr.kinds] at spelled
    obtain ⟨token, tail, rfl, keyword, spelled⟩ := List.map_eq_cons_iff.1 spelled
    obtain ⟨us, opening, tail, rfl, usKinds, openKind, spelled⟩ := split_at_kind spelled
    obtain ⟨vs, close, tail, rfl, vsKinds, closeKind, spelled⟩ := split_at_kind spelled
    obtain ⟨isElse, tail, rfl, elseKind, spelled⟩ := List.map_eq_cons_iff.1 spelled
    obtain ⟨second, tail, rfl, secondKind, spelled⟩ := List.map_eq_cons_iff.1 spelled
    obtain ⟨ws, last, rfl, wsKinds, spelled⟩ := List.map_eq_append_iff.1 spelled
    simp only [List.cons_append, List.append_assoc]
    apply fails_expression
    apply fails_cond keyword writable refused usKinds
    intro operation tests paren closing
    by_cases good : AllTestsOperate code
    · have inner : ¬ AllTestsOperate other := fun more => bad ⟨operation, tests, good, more⟩
      exact fails_alternative codeWritable good alternative inner closing openKind vsKinds closeKind
        elseKind secondKind wsKinds _
    · exact fails_consequence branch good closing openKind vsKinds _
  inside _ operation := operation.elim
  test _ _ _ rest keyword same := fails_test_of_start (by decide) keyword same rest

theorem fn_refused {names : List String} {code : List Stmt} (body : AllRefused code) :
    (Expr.fn names code).Refused where
  whole bad level tokens rest _ spelled := by
    rw [Expr.kinds] at spelled
    obtain ⟨token, tail, rfl, keyword, spelled⟩ := List.map_eq_cons_iff.1 spelled
    obtain ⟨opening, tail, rfl, openKind, spelled⟩ := List.map_eq_cons_iff.1 spelled
    obtain ⟨us, close, tail, rfl, usKinds, closing, spelled⟩ := split_at_kind spelled
    obtain ⟨brace, tail, rfl, braceKind, spelled⟩ := List.map_eq_cons_iff.1 spelled
    obtain ⟨vs, last, rfl, vsKinds, spelled⟩ := List.map_eq_append_iff.1 spelled
    simp only [List.cons_append, List.append_assoc]
    have inner : ¬ AllTestsOperate code := fun good => bad ⟨trivial, good⟩
    have list : parameters (us ++ close :: brace :: (vs ++ (last ++ rest))) =
        .ok names (brace :: (vs ++ (last ++ rest))) := Parameters.read usKinds closing
    apply fails_expression
    rw [operand_eq, keyword]
    simp only
    rw [expect_found openKind, Step.andThen_ok, list, Step.andThen_ok]
    exact (body.block inner braceKind vsKinds _).map _
  inside _ operation := operation.elim
  test _ _ _ rest keyword same := fails_test_of_start (by decide) keyword same rest

theorem fails_arguments {given : List Expr} (refused : EachRefused given)
    (tests : ¬ EachTestsOperate given) {tokens : List Token} (rest : List Token)
    (spelled : tokens.map Token.kind = eachKinds given) : (arguments (tokens ++ rest)).Fails := by
  have starts : ∃ kind tail, eachKinds given = kind :: tail ∧ StartsExpression kind := by
    cases given with
    | nil => exact absurd trivial tests
    | cons argument arguments =>
      obtain ⟨kind, tail, same, starts⟩ := argument.kinds_start
      cases arguments with
      | nil => exact ⟨kind, tail, same, starts⟩
      | cons next arguments => exact ⟨kind, _, by rw [eachKinds, same]; rfl, starts⟩
  have other : ¬ Faces (· = .rparen) (tokens ++ rest) := by
    intro faces
    exact (faces_of_spelled starts spelled).not faces fun _ starts => starts.ne_rparen
  rw [arguments_eq, ifTaken_other other]
  exact refused tests rest spelled

theorem call_refused {callee : Expr} {given : List Expr} (writable : callee.Writable)
    (function : callee.Refused) (list : EachRefused given) : (Expr.call callee given).Refused where
  whole bad level tokens rest lt spelled := by
    rw [Expr.kinds] at spelled
    obtain ⟨us, opening, tail, rfl, usKinds, openKind, spelled⟩ := split_at_kind spelled
    obtain ⟨vs, last, rfl, vsKinds, spelled⟩ := List.map_eq_append_iff.1 spelled
    simp only [List.cons_append, List.append_assoc]
    by_cases tests : callee.TestsOperate
    · have inner : ¬ EachTestsOperate given := fun good => bad ⟨trivial, tests, good⟩
      rw [Expr.read_back writable tests lt usKinds (by rw [openKind]; decide),
        climb_arguments openKind lt]
      exact (fails_arguments list inner _ vsKinds).andThen _
    · exact function.whole tests _ lt usKinds
  inside _ operation := operation.elim
  test _ token tokens rest keyword spelled := by
    rw [Expr.kinds] at spelled
    obtain ⟨us, opening, tail, rfl, usKinds, openKind, spelled⟩ := split_at_kind spelled
    simp only [List.cons_append, List.append_assoc]
    apply fails_cond keyword writable function usKinds
    intro operation tests close closing
    rw [readBranches, expect_found closing, Step.andThen_ok]
    have other : opening.kind ≠ .lbrace := by
      rw [openKind]
      decide
    exact (fails_block other _).andThen _

theorem letStmt_refused {name : String} {value : Expr} (refused : value.Refused) :
    (Stmt.letStmt name value).Refused := by
  intro bad tokens rest spelled
  have inner : ¬ value.TestsOperate := fun good => bad ⟨trivial, good⟩
  obtain ⟨token, tail, rfl, keyword, spelled⟩ := List.map_eq_cons_iff.1 spelled
  obtain ⟨ident, tail, rfl, identKind, spelled⟩ := List.map_eq_cons_iff.1 spelled
  obtain ⟨assign, us, rfl, assignKind, usKinds⟩ := List.map_eq_cons_iff.1 spelled
  simp only [List.cons_append]
  rw [statement_let keyword, identifier_ident identKind, Step.andThen_ok, expect_found assignKind,
    Step.andThen_ok]
  exact (refused.whole inner rest (by decide) usKinds).map _

theorem returnStmt_refused {value : Expr} (refused : value.Refused) :
    (Stmt.returnStmt value).Refused := by
  intro bad tokens rest spelled
  have inner : ¬ value.TestsOperate := fun good => bad ⟨trivial, good⟩
  obtain ⟨token, us, rfl, keyword, usKinds⟩ := List.map_eq_cons_iff.1 spelled
  rw [List.cons_append, statement_return keyword]
  exact (refused.whole inner rest (by decide) usKinds).map _

theorem exprStmt_refused {value : Expr} (refused : value.Refused) :
    (Stmt.exprStmt value).Refused := by
  intro bad tokens rest spelled
  have inner : ¬ value.TestsOperate := fun good => bad ⟨trivial, good⟩
  have plain : ¬ FacesKeyword (tokens ++ rest) := by
    intro keyword
    exact (faces_of_spelled value.kinds_start spelled).not keyword fun _ starts => starts.noKeyword
  rw [statement_eq_expression plain]
  exact (refused.whole inner rest (by decide) spelled).map _

theorem all_refused_cons {statement : Stmt} {others : List Stmt} (writable : statement.Writable)
    (first : statement.Refused) (refused : AllRefused others) :
    AllRefused (statement :: others) := by
  intro bad p read sequences stands tokens rest spelled
  obtain ⟨us, semicolon, vs, rfl, usKinds, kind, vsKinds⟩ := split_at_kind spelled
  rw [List.append_assoc, List.cons_append]
  have faces : Faces p (us ++ semicolon :: (vs ++ rest)) :=
    (faces_of_spelled statement.kinds_start usKinds).imp stands
  by_cases tests : statement.TestsOperate
  · have inner : ¬ AllTestsOperate others := fun good => bad ⟨tests, good⟩
    have ends : Ends .lowest (semicolon :: (vs ++ rest)) :=
      ends_of_kind kind (by decide)
    have step := (statement.derived writable tests).read usKinds ends
    rw [sequences.of_ok faces step, dropSemicolon_found kind]
    exact (refused inner sequences stands rest vsKinds).map _
  · obtain ⟨error, mistake⟩ := first tests (semicolon :: (vs ++ rest)) usKinds
    exact ⟨error, sequences.of_first faces mistake⟩

theorem each_refused_cons {argument next : Expr} {others : List Expr} (writable : argument.Writable)
    (first : argument.Refused) (refused : EachRefused (next :: others)) :
    EachRefused (argument :: next :: others) := by
  intro bad tokens rest spelled
  obtain ⟨us, comma, vs, rfl, usKinds, kind, vsKinds⟩ := split_at_kind spelled
  rw [List.append_assoc, List.cons_append, argumentList_eq]
  by_cases tests : argument.TestsOperate
  · have inner : ¬ EachTestsOperate (next :: others) := fun good => bad ⟨tests, good⟩
    have ends : Ends .lowest (comma :: (vs ++ rest)) :=
      ends_of_kind kind (by decide)
    rw [Expr.read_back writable tests (by decide) usKinds (by rw [kind]; decide), ends.climb,
      Step.andThen_ok]
    rw [ifTaken_found kind]
    exact (refused inner rest vsKinds).map _
  · exact (first.whole tests _ (by decide) usKinds).andThen _

mutual

theorem Expr.refused : ∀ e : Expr, e.Writable → e.Refused
  | .ident _, _ => refused_of_operates trivial rfl (by simp)
  | .int _, nonneg => refused_of_operates trivial (numeralKinds_of_nonneg nonneg) (by simp)
  | .string _, _ => refused_of_operates trivial rfl (by simp)
  | .bool true, _ => refused_of_operates trivial rfl (by decide)
  | .bool false, _ => refused_of_operates trivial rfl (by decide)
  | .unary op operand, ⟨_, writable⟩ => unary_refused op (operand.refused writable)
  | .binary op left right, ⟨_, first, second⟩ =>
    binary_refused op first (left.refused first) (right.refused second)
  | .cond test consequence none, ⟨_, condition, branch⟩ =>
    cond_refused condition (test.refused condition) (allRefused consequence branch)
  | .cond test consequence (some alternative), ⟨_, condition, branch, other⟩ =>
    condElse_refused condition branch (test.refused condition) (allRefused consequence branch)
      (allRefused alternative other)
  | .fn _ body, ⟨_, writable⟩ => fn_refused (allRefused body writable)
  | .call callee arguments, ⟨_, function, given⟩ =>
    call_refused function (callee.refused function) (eachRefused arguments given)
termination_by structural e => e

theorem Stmt.refused : ∀ s : Stmt, s.Writable → s.Refused
  | .letStmt _ value, ⟨_, writable⟩ => letStmt_refused (value.refused writable)
  | .returnStmt value, ⟨_, writable⟩ => returnStmt_refused (value.refused writable)
  | .exprStmt value, ⟨_, writable⟩ => exprStmt_refused (value.refused writable)
termination_by structural s => s

theorem allRefused : ∀ ss : List Stmt, AllWritable ss → AllRefused ss
  | [], _ => fun bad => absurd trivial bad
  | statement :: others, ⟨writable, more⟩ =>
    all_refused_cons writable (statement.refused writable) (allRefused others more)
termination_by structural ss => ss

theorem eachRefused : ∀ es : List Expr, EachWritable es → EachRefused es
  | [], _ => fun bad => absurd trivial bad
  | [argument], ⟨writable, _⟩ => by
    intro bad tokens rest spelled
    have inner : ¬ argument.TestsOperate := fun good => bad ⟨good, trivial⟩
    rw [argumentList_eq]
    exact ((argument.refused writable).whole inner rest (by decide) spelled).andThen _
  | argument :: next :: others, ⟨writable, more⟩ =>
    each_refused_cons writable (argument.refused writable) (eachRefused (next :: others) more)
termination_by structural es => es

end

/-- The rendering of a writable program derives no tree unless all its tests are operations. -/
theorem testsOperate_of_derived {program other : Program} (writable : AllWritable program)
    (derived : Statements (allKinds program) other) : AllTestsOperate program := by
  apply Classical.byContradiction
  intro bad
  let tokens := unplaced (allKinds program)
  have spelled : tokens.map Token.kind = allKinds program := unplaced_kinds _
  obtain ⟨error, mistake⟩ :=
    allRefused program writable bad everything_sequences (fun _ _ => trivial) [] spelled
  rw [List.append_nil, everything, derived.recognized spelled] at mistake
  contradiction

/-- A parsed program is read back from its rendering if the test of each conditional in it is an
operation; otherwise its rendering is no program. -/
theorem parse_render_iff {source : String} {program : Program}
    (parsed : parse source = .ok program) :
    (parse (Program.render program) = .ok program ↔ AllTestsOperate program) ∧
      (¬ AllTestsOperate program → ∃ errors, parse (Program.render program) = .error errors) := by
  have writable := writable_of_parse parsed
  have rendered := Program.cuts writable
  constructor
  · rw [parse_eq_ok_iff rendered]
    constructor
    · exact testsOperate_of_derived writable
    · exact allDerived program writable
  · intro bad
    cases result : parse (Program.render program) with
    | error errors => exact ⟨errors, rfl⟩
    | ok other =>
      have derived := (parse_eq_ok_iff rendered).1 result
      exact absurd (testsOperate_of_derived writable derived) bad

def nameTest : Program := [.exprStmt (.cond (.ident "x") [.exprStmt (.ident "y")] none)]

theorem nameTest_not_read_back :
    parse "if (x) \x7b y \x7d" = .ok nameTest ∧
      parse (Program.render nameTest) ≠ .ok nameTest ∧
      ∃ errors, parse (Program.render nameTest) = .error errors := by
  have parsed : parse "if (x) \x7b y \x7d" = .ok nameTest :=
    parse_eq_ok_iff_reading.2 (by decide +kernel)
  have bad : ¬ AllTestsOperate nameTest := fun tests => tests.1.2.1
  obtain ⟨iff, refused⟩ := parse_render_iff parsed
  exact ⟨parsed, mt iff.1 bad, refused bad⟩

end Monkey
