import Mathlib.Data.List.Basic
import Monkey.Proofs.Render.Spelling

/-!
No two trees are rendered alike, not even where the rendering is not read back. The text of a call
begins with the text of its callee, so expressions are compared as heads, which are no calls, and
the lists of arguments that these are applied to one after another. The head is known by its first
token, but for a minus behind a parenthesis: that can be an operator or the sign of a number.
-/
namespace Monkey
open Token (Kind)

/-- The expression is called with the first arguments, the result with the second, and so on. -/
def Expr.applied (e : Expr) (spine : List (List Expr)) : Expr := spine.foldl .call e

def Expr.IsHead : Expr → Prop
  | .call _ _ => False
  | _ => True

def spineKinds (spine : List (List Expr)) : List Kind :=
  spine.flatMap fun arguments => .lparen :: (eachKinds arguments ++ [.rparen])

theorem Expr.applied_concat (e : Expr) (spine : List (List Expr)) (arguments : List Expr) :
    e.applied (spine ++ [arguments]) = .call (e.applied spine) arguments := by
  rw [applied, List.foldl_append]
  rfl

theorem spineKinds_cons (arguments : List Expr) (spine : List (List Expr)) (rest : List Kind) :
    spineKinds (arguments :: spine) ++ rest =
      .lparen :: (eachKinds arguments ++ .rparen :: (spineKinds spine ++ rest)) := by
  simp [spineKinds]

theorem spineKinds_concat (spine : List (List Expr)) (arguments : List Expr) (rest : List Kind) :
    spineKinds (spine ++ [arguments]) ++ rest =
      spineKinds spine ++ .lparen :: (eachKinds arguments ++ .rparen :: rest) := by
  simp [spineKinds]

theorem Expr.kinds_call (callee : Expr) (arguments : List Expr) (rest : List Kind) :
    (Expr.call callee arguments).kinds ++ rest =
      callee.kinds ++ .lparen :: (eachKinds arguments ++ .rparen :: rest) := by
  simp [Expr.kinds]

theorem Expr.kinds_applied (e : Expr) (spine : List (List Expr)) (rest : List Kind) :
    (e.applied spine).kinds ++ rest = e.kinds ++ (spineKinds spine ++ rest) := by
  induction spine generalizing e with
  | nil => rfl
  | cons arguments spine ih =>
    have called : (e.applied (arguments :: spine)).kinds ++ rest =
        (Expr.call e arguments).kinds ++ (spineKinds spine ++ rest) := ih (.call e arguments)
    rw [called, kinds_call, spineKinds_cons]

theorem Expr.exists_head (e : Expr) : ∃ head spine, IsHead head ∧ e = head.applied spine := by
  cases e with
  | call callee arguments =>
    obtain ⟨head, spine, isHead, same⟩ := callee.exists_head
    exact ⟨head, spine ++ [arguments], isHead, by rw [applied_concat, same]⟩
  | _ =>
    refine ⟨_, [], ?_, rfl⟩
    trivial
termination_by structural e

def Token.Kind.Begins : Kind → Expr → Prop
  | .ident name, e => e = .ident name
  | .int _, e => ∃ value, e = .int value
  | .minus, e => ∃ value, e = .int value
  | .string contents, e => e = .string contents
  | .trueKeyword, e => e = .bool true
  | .falseKeyword, e => e = .bool false
  | .lparen, e => (∃ op operand, e = .unary op operand) ∨ ∃ op left right, e = .binary op left right
  | .ifKeyword, e => ∃ test consequence alternative, e = .cond test consequence alternative
  | .fnKeyword, e => ∃ parameters body, e = .fn parameters body
  | _, _ => False

theorem Expr.IsHead.begun {head : Expr} {kind : Kind} {rest rest' : List Kind}
    (isHead : head.IsHead) (same : kind :: rest = head.kinds ++ rest') : kind.Begins head := by
  have first : some kind = (head.kinds ++ rest').head? := congrArg List.head? same
  cases head with
  | ident name => cases first; rfl
  | int value =>
    rw [Expr.kinds, numeralKinds] at first
    split at first
    · cases first; exact ⟨value, rfl⟩
    · cases first; exact ⟨value, rfl⟩
  | string contents => cases first; rfl
  | bool value => cases value <;> cases first <;> rfl
  | unary op operand => cases first; exact .inl ⟨op, operand, rfl⟩
  | binary op left right => cases first; exact .inr ⟨op, left, right, rfl⟩
  | cond test consequence alternative =>
    cases alternative <;> cases first <;> exact ⟨test, consequence, _, rfl⟩
  | fn parameters body => cases first; exact ⟨parameters, body, rfl⟩
  | call callee arguments => contradiction

def NoElse (rest : List Kind) : Prop := rest.head? ≠ some .elseKeyword

theorem NoElse.behind_spine {rest : List Kind} (noElse : NoElse rest) (spine : List (List Expr)) :
    NoElse (spineKinds spine ++ rest) := by
  cases spine with
  | nil => exact noElse
  | cons arguments spine =>
    rw [spineKinds_cons]
    simp [NoElse]

def Token.Kind.Ends (kind : Kind) : Prop := kind ≠ .elseKeyword ∧ kind ≠ .lparen

instance (kind : Kind) : Decidable kind.Ends := inferInstanceAs (Decidable (_ ∧ _))

theorem BinaryOp.kind_ends (op : BinaryOp) : op.kind.Ends := by
  cases op <;> decide

theorem Token.Kind.Ends.noElse {kind : Kind} (ends : kind.Ends) (rest : List Kind) :
    NoElse (kind :: rest) := by
  simpa [NoElse] using ends.1

theorem Token.Kind.Ends.spine_eq_nil {kind : Kind} (ends : kind.Ends) {rest rest' : List Kind}
    {spine : List (List Expr)} (same : kind :: rest = spineKinds spine ++ rest') : spine = [] := by
  cases spine with
  | nil => rfl
  | cons arguments spine =>
    rw [spineKinds_cons] at same
    exact absurd (List.cons.inj same).1 ends.2

/-- Where two texts agree, one beginning with this expression and the other with some expression,
one of the two expressions is the other, applied to any number of lists of arguments. -/
def Expr.Told (e : Expr) : Prop :=
  ∀ ⦃e' : Expr⦄ ⦃rest rest' : List Kind⦄, NoElse rest → NoElse rest' →
    e.kinds ++ rest = e'.kinds ++ rest' →
    (∃ spine, e' = e.applied spine ∧ rest = spineKinds spine ++ rest') ∨
      ∃ spine, e = e'.applied spine ∧ rest' = spineKinds spine ++ rest

def Expr.HeadTold (head : Expr) : Prop :=
  ∀ ⦃head' : Expr⦄ ⦃rest rest' : List Kind⦄, head'.IsHead → NoElse rest → NoElse rest' →
    head.kinds ++ rest = head'.kinds ++ rest' → head = head' ∧ rest = rest'

def EachTold (arguments : List Expr) : Prop :=
  ∀ ⦃arguments' : List Expr⦄ ⦃rest rest' : List Kind⦄,
    eachKinds arguments ++ .rparen :: rest = eachKinds arguments' ++ .rparen :: rest' →
    arguments = arguments' ∧ rest = rest'

def Stmt.Told (statement : Stmt) : Prop :=
  ∀ ⦃statement' : Stmt⦄ ⦃rest rest' : List Kind⦄,
    statement.kinds ++ .semicolon :: rest = statement'.kinds ++ .semicolon :: rest' →
    statement = statement' ∧ rest = rest'

def AllTold (code : List Stmt) : Prop :=
  ∀ ⦃code' : List Stmt⦄ ⦃rest rest' : List Kind⦄,
    allKinds code ++ .rbrace :: rest = allKinds code' ++ .rbrace :: rest' →
    code = code' ∧ rest = rest'

theorem Expr.Told.eq {e e' : Expr} {kind kind' : Kind} {rest rest' : List Kind} (told : e.Told)
    (ends : kind.Ends) (ends' : kind'.Ends)
    (same : e.kinds ++ kind :: rest = e'.kinds ++ kind' :: rest') :
    e = e' ∧ kind = kind' ∧ rest = rest' := by
  obtain ⟨spine, rfl, tail⟩ | ⟨spine, rfl, tail⟩ :=
    told (ends.noElse rest) (ends'.noElse rest') same
  · cases ends.spine_eq_nil tail
    exact ⟨rfl, List.cons.inj tail⟩
  · cases ends'.spine_eq_nil tail
    exact ⟨rfl, List.cons.inj tail.symm⟩

theorem Expr.HeadTold.told {head : Expr} (told : head.HeadTold) : head.Told := by
  intro e' rest rest' noElse noElse' same
  obtain ⟨head', spine, isHead, rfl⟩ := e'.exists_head
  rw [kinds_applied] at same
  obtain ⟨rfl, rfl⟩ := told isHead noElse (noElse'.behind_spine spine) same
  exact .inl ⟨spine, rfl, rfl⟩

theorem call_told {callee : Expr} {arguments : List Expr} (function : callee.Told)
    (given : EachTold arguments) : (Expr.call callee arguments).Told := by
  intro e' rest rest' _ noElse' same
  rw [Expr.kinds_call] at same
  obtain ⟨spine, rfl, tail⟩ | ⟨spine, rfl, tail⟩ := function (by simp [NoElse]) noElse' same
  · cases spine with
    | nil =>
      refine .inr ⟨[arguments], rfl, ?_⟩
      rw [spineKinds_cons]
      exact tail.symm
    | cons second spine =>
      rw [spineKinds_cons] at tail
      obtain ⟨rfl, rfl⟩ := given (List.cons.inj tail).2
      exact .inl ⟨spine, rfl, rfl⟩
  · refine .inr ⟨spine ++ [arguments], (Expr.applied_concat ..).symm, ?_⟩
    rw [tail, spineKinds_concat]

theorem numeralKinds_append {v w : Int64} {rest rest' : List Kind}
    (same : numeralKinds v ++ rest = numeralKinds w ++ rest') : v = w ∧ rest = rest' := by
  have parts : (v.toInt < 0 ↔ w.toInt < 0) ∧
      Nat.repr v.toInt.natAbs = Nat.repr w.toInt.natAbs ∧ rest = rest' := by
    grind [numeralKinds]
  obtain ⟨sign, digits, behind⟩ := parts
  have size := Numeral.repr_injective digits
  exact ⟨Int64.toInt_inj.1 (by omega), behind⟩

theorem atom_told {atom : Expr} {kind : Kind} (spelled : atom.kinds = [kind])
    (only : ∀ e, kind.Begins e → e = atom) : atom.HeadTold := by
  intro head' rest rest' isHead _ _ same
  have begun : kind.Begins head' := by
    rw [spelled] at same
    exact isHead.begun same
  cases only _ begun
  exact ⟨rfl, List.append_cancel_left same⟩

theorem bool_told (value : Bool) : (Expr.bool value).HeadTold := by
  cases value with
  | true => exact atom_told rfl fun _ => id
  | false => exact atom_told rfl fun _ => id

theorem int_told (value : Int64) : (Expr.int value).HeadTold := by
  intro head' rest rest' isHead _ _ same
  have begun : ∃ other, head' = .int other := by
    rw [Expr.kinds, numeralKinds] at same
    split at same
    · exact isHead.begun same
    · exact isHead.begun same
  obtain ⟨other, rfl⟩ := begun
  obtain ⟨rfl, rfl⟩ := numeralKinds_append same
  exact ⟨rfl, rfl⟩

theorem UnaryOp.kind_injective {op op' : UnaryOp} (same : op.kind = op'.kind) : op = op' := by
  cases op <;> cases op' <;> first | rfl | contradiction

theorem BinaryOp.kind_injective {op op' : BinaryOp} (same : op.kind = op'.kind) : op = op' := by
  have found := op.ofKind?_kind
  rw [same, op'.ofKind?_kind] at found
  exact (Option.some.inj found).symm

/-- If an operator in front of one expression is the sign of a number at the head of another, both
heads are numbers, and behind them stands the same. -/
theorem eq_behind_sign {op : UnaryOp} {operand left : Expr} {rest rest' : List Kind}
    (same : op.kind :: (operand.kinds ++ rest) = left.kinds ++ rest') :
    ∃ head head' spine spine', operand = Expr.applied head spine ∧
      left = Expr.applied head' spine' ∧ spineKinds spine ++ rest = spineKinds spine' ++ rest' := by
  obtain ⟨head, spine, isHead, rfl⟩ := operand.exists_head
  obtain ⟨head', spine', isHead', rfl⟩ := left.exists_head
  refine ⟨head, head', spine, spine', rfl, rfl, ?_⟩
  rw [Expr.kinds_applied, Expr.kinds_applied] at same
  have begun := isHead'.begun same
  cases op with
  | bang => exact begun.elim
  | minus =>
    obtain ⟨value, rfl⟩ := begun
    rw [Expr.kinds, numeralKinds] at same
    split at same
    · have digits := (List.cons.inj same).2
      obtain ⟨other, rfl⟩ := isHead.begun digits.symm
      rw [Expr.kinds, numeralKinds] at digits
      split at digits
      · cases digits
      · exact (List.cons.inj digits).2
    · cases same

theorem eq_behind_spines {e : Expr} {spine spine' : List (List Expr)} {kind kind' : Kind}
    {rest rest' : List Kind} (told : (e.applied spine).Told) (ends : kind.Ends) (ends' : kind'.Ends)
    (same : spineKinds spine ++ kind :: rest = spineKinds spine' ++ kind' :: rest') :
    kind = kind' := by
  have whole : (e.applied spine).kinds ++ kind :: rest =
      (e.applied spine').kinds ++ kind' :: rest' := by
    rw [Expr.kinds_applied, Expr.kinds_applied, same]
  exact (told.eq ends ends' whole).2.1

/-- Parentheses never hold both an operation with one operand and an operation with two. -/
theorem operations_apart {op : UnaryOp} {op' : BinaryOp} {operand left : Expr}
    {rest rest' : List Kind} (told : operand.Told ∨ left.Told) :
    op.kind :: (operand.kinds ++ .rparen :: rest) ≠ left.kinds ++ op'.kind :: rest' := by
  intro same
  obtain ⟨head, head', spine, spine', rfl, rfl, tails⟩ := eq_behind_sign same
  have closing : Kind.rparen.Ends := by decide
  -- one of the operands is told, so behind both the same kind would have to stand
  have sign : Kind.rparen = op'.kind := by
    rcases told with told | told
    · exact eq_behind_spines told closing op'.kind_ends tails
    · exact (eq_behind_spines told op'.kind_ends closing tails.symm).symm
  cases op' <;> contradiction

theorem Expr.kinds_unary (op : UnaryOp) (operand : Expr) (rest : List Kind) :
    (Expr.unary op operand).kinds ++ rest =
      .lparen :: op.kind :: (operand.kinds ++ .rparen :: rest) := by
  simp [Expr.kinds]

theorem Expr.kinds_binary (op : BinaryOp) (left right : Expr) (rest : List Kind) :
    (Expr.binary op left right).kinds ++ rest =
      .lparen :: (left.kinds ++ op.kind :: (right.kinds ++ .rparen :: rest)) := by
  simp [Expr.kinds]

theorem unary_told (op : UnaryOp) {operand : Expr} (told : operand.Told) :
    (Expr.unary op operand).HeadTold := by
  intro head' rest rest' isHead _ _ same
  rw [Expr.kinds_unary] at same
  obtain ⟨op', operand', rfl⟩ | ⟨op', left, right, rfl⟩ := isHead.begun same
  · rw [Expr.kinds_unary] at same
    obtain ⟨sign, inner⟩ := List.cons.inj (List.cons.inj same).2
    cases UnaryOp.kind_injective sign
    obtain ⟨rfl, -, rfl⟩ := told.eq (by decide) (by decide) inner
    exact ⟨rfl, rfl⟩
  · rw [Expr.kinds_binary] at same
    exact absurd (List.cons.inj same).2 (operations_apart (.inl told))

theorem binary_told (op : BinaryOp) {left right : Expr} (first : left.Told) (second : right.Told) :
    (Expr.binary op left right).HeadTold := by
  intro head' rest rest' isHead _ _ same
  rw [Expr.kinds_binary] at same
  obtain ⟨op', operand, rfl⟩ | ⟨op', left', right', rfl⟩ := isHead.begun same
  · rw [Expr.kinds_unary] at same
    exact absurd (List.cons.inj same.symm).2 (operations_apart (.inr first))
  · rw [Expr.kinds_binary] at same
    obtain ⟨rfl, sign, inner⟩ := first.eq op.kind_ends op'.kind_ends (List.cons.inj same).2
    cases BinaryOp.kind_injective sign
    obtain ⟨rfl, -, rfl⟩ := second.eq (by decide) (by decide) inner
    exact ⟨rfl, rfl⟩

def elseKinds : Option Block → List Kind
  | none => []
  | some alternative => .elseKeyword :: .lbrace :: (allKinds alternative ++ [.rbrace])

theorem Expr.kinds_cond (test : Expr) (consequence : Block) (alternative : Option Block)
    (rest : List Kind) : (Expr.cond test consequence alternative).kinds ++ rest =
      .ifKeyword :: (test.kinds ++ .lbrace :: (allKinds consequence ++ .rbrace ::
        (elseKinds alternative ++ rest))) := by
  cases alternative <;> simp [Expr.kinds, elseKinds]

theorem elseKinds_append {alternative alternative' : Option Block} {rest rest' : List Kind}
    (told : ∀ code, alternative = some code → AllTold code)
    (noElse : NoElse rest) (noElse' : NoElse rest')
    (same : elseKinds alternative ++ rest = elseKinds alternative' ++ rest') :
    alternative = alternative' ∧ rest = rest' := by
  cases alternative with
  | none =>
    cases alternative' with
    | none => exact ⟨rfl, same⟩
    | some code' => exact absurd (congrArg List.head? same) noElse
  | some code =>
    cases alternative' with
    | none => exact absurd (congrArg List.head? same.symm) noElse'
    | some code' =>
      have inner : allKinds code ++ .rbrace :: rest = allKinds code' ++ .rbrace :: rest' := by
        simpa [elseKinds] using same
      obtain ⟨rfl, rfl⟩ := told code rfl inner
      exact ⟨rfl, rfl⟩

theorem cond_told {test : Expr} {consequence : Block} {alternative : Option Block}
    (condition : test.Told) (branch : AllTold consequence)
    (other : ∀ code, alternative = some code → AllTold code) :
    (Expr.cond test consequence alternative).HeadTold := by
  intro head' rest rest' isHead noElse noElse' same
  rw [Expr.kinds_cond] at same
  obtain ⟨test', consequence', alternative', rfl⟩ := isHead.begun same
  rw [Expr.kinds_cond] at same
  obtain ⟨rfl, -, blocks⟩ := condition.eq (by decide) (by decide) (List.cons.inj same).2
  obtain ⟨rfl, others⟩ := branch blocks
  obtain ⟨rfl, rfl⟩ := elseKinds_append other noElse noElse' others
  exact ⟨rfl, rfl⟩

theorem starts_of_eq {e : Expr} {kind : Kind} {rest rest' : List Kind}
    (same : kind :: rest = e.kinds ++ rest') : Grammar.StartsExpression kind := by
  obtain ⟨first, kinds, spelled, starts⟩ := e.kinds_start
  rw [spelled] at same
  cases same
  exact starts

def furtherKinds : List Expr → List Kind
  | [] => []
  | next :: others => .comma :: eachKinds (next :: others)

theorem eachKinds_cons (argument : Expr) (others : List Expr) (rest : List Kind) :
    eachKinds (argument :: others) ++ rest = argument.kinds ++ (furtherKinds others ++ rest) := by
  cases others <;> simp [eachKinds, furtherKinds]

theorem each_told_nil : EachTold [] := by
  intro arguments' rest rest' same
  cases arguments' with
  | nil => exact ⟨rfl, (List.cons.inj same).2⟩
  | cons argument' others' =>
    rw [eachKinds_cons] at same
    exact (starts_of_eq same).elim

theorem each_told_cons {argument : Expr} {others : List Expr} (first : argument.Told)
    (told : EachTold others) : EachTold (argument :: others) := by
  intro arguments' rest rest' same
  rw [eachKinds_cons] at same
  cases arguments' with
  | nil => exact (starts_of_eq same.symm).elim
  | cons argument' others' =>
    rw [eachKinds_cons] at same
    have ends : Kind.rparen.Ends ∧ Kind.comma.Ends := by decide
    cases others with
    | nil =>
      cases others' with
      | nil =>
        obtain ⟨rfl, -, rfl⟩ := first.eq ends.1 ends.1 same
        exact ⟨rfl, rfl⟩
      | cons next' others' =>
        obtain ⟨-, other, -⟩ := first.eq ends.1 ends.2 same
        contradiction
    | cons next others =>
      cases others' with
      | nil =>
        obtain ⟨-, other, -⟩ := first.eq ends.2 ends.1 same
        contradiction
      | cons next' others' =>
        obtain ⟨rfl, -, behind⟩ := first.eq ends.2 ends.2 same
        obtain ⟨others_eq, rfl⟩ := told behind
        exact ⟨congrArg _ others_eq, rfl⟩

theorem eachKinds_idents (names : List String) :
    eachKinds (names.map Expr.ident) = (names.map Kind.ident).intersperse .comma := by
  induction names with
  | nil => rfl
  | cons name names ih =>
    cases names with
    | nil => rfl
    | cons second names => exact congrArg (fun kinds => .ident name :: .comma :: kinds) ih

theorem idents_told (names : List String) : EachTold (names.map Expr.ident) := by
  induction names with
  | nil => exact each_told_nil
  | cons name names ih => exact each_told_cons (atom_told rfl fun _ => id).told ih

theorem Expr.kinds_fn (parameters : List String) (body : List Stmt) (rest : List Kind) :
    (Expr.fn parameters body).kinds ++ rest =
      .fnKeyword :: .lparen :: (eachKinds (parameters.map Expr.ident) ++ .rparen :: .lbrace ::
        (allKinds body ++ .rbrace :: rest)) := by
  rw [eachKinds_idents]
  simp [Expr.kinds]

theorem fn_told {parameters : List String} {body : List Stmt} (told : AllTold body) :
    (Expr.fn parameters body).HeadTold := by
  intro head' rest rest' isHead _ _ same
  rw [Expr.kinds_fn] at same
  obtain ⟨parameters', body', rfl⟩ := isHead.begun same
  rw [Expr.kinds_fn] at same
  obtain ⟨idents, block⟩ := idents_told parameters (List.cons.inj (List.cons.inj same).2).2
  have names : parameters = parameters' :=
    List.map_injective_iff.2 (fun _ _ => Expr.ident.inj) idents
  obtain ⟨rfl, rfl⟩ := told (List.cons.inj block).2
  exact ⟨by rw [names], rfl⟩

theorem letStmt_told {name : String} {value : Expr} (told : value.Told) :
    (Stmt.letStmt name value).Told := by
  intro statement' rest rest' same
  cases statement' with
  | letStmt name' value' =>
    simp only [Stmt.kinds, List.cons_append, List.cons.injEq, Kind.ident.injEq, true_and] at same
    obtain ⟨rfl, bound⟩ := same
    obtain ⟨rfl, -, rfl⟩ := told.eq (by decide) (by decide) bound
    exact ⟨rfl, rfl⟩
  | returnStmt value' => cases same
  | exprStmt value' => exact (starts_of_eq same).elim

theorem returnStmt_told {value : Expr} (told : value.Told) : (Stmt.returnStmt value).Told := by
  intro statement' rest rest' same
  cases statement' with
  | letStmt name' value' => cases same
  | returnStmt value' =>
    obtain ⟨rfl, -, rfl⟩ := told.eq (by decide) (by decide) (List.cons.inj same).2
    exact ⟨rfl, rfl⟩
  | exprStmt value' => exact (starts_of_eq same).elim

theorem exprStmt_told {value : Expr} (told : value.Told) : (Stmt.exprStmt value).Told := by
  intro statement' rest rest' same
  cases statement' with
  | letStmt name' value' => exact (starts_of_eq same.symm).elim
  | returnStmt value' => exact (starts_of_eq same.symm).elim
  | exprStmt value' =>
    obtain ⟨rfl, -, rfl⟩ := told.eq (by decide) (by decide) same
    exact ⟨rfl, rfl⟩

theorem rbrace_ne_allKinds_cons (statement : Stmt) (others : List Stmt) (rest rest' : List Kind) :
    .rbrace :: rest ≠ allKinds (statement :: others) ++ rest' := by
  intro same
  obtain ⟨first, kinds, spelled, starts⟩ := statement.kinds_start
  rw [allKinds, spelled] at same
  cases same
  exact starts

theorem all_told_nil : AllTold [] := by
  intro code' rest rest' same
  cases code' with
  | nil => exact ⟨rfl, (List.cons.inj same).2⟩
  | cons statement' others' => exact (rbrace_ne_allKinds_cons _ _ _ _ same).elim

theorem all_told_cons {statement : Stmt} {others : List Stmt} (first : statement.Told)
    (told : AllTold others) : AllTold (statement :: others) := by
  intro code' rest rest' same
  cases code' with
  | nil => exact (rbrace_ne_allKinds_cons _ _ _ _ same.symm).elim
  | cons statement' others' =>
    rw [allKinds, allKinds, List.append_assoc, List.append_assoc] at same
    obtain ⟨rfl, behind⟩ := first same
    obtain ⟨rfl, rfl⟩ := told behind
    exact ⟨rfl, rfl⟩

mutual

theorem Expr.told : ∀ e : Expr, e.Told
  | .ident _ => (atom_told rfl fun _ => id).told
  | .int value => (int_told value).told
  | .string _ => (atom_told rfl fun _ => id).told
  | .bool value => (bool_told value).told
  | .unary op operand => (unary_told op operand.told).told
  | .binary op left right => (binary_told op left.told right.told).told
  | .cond test consequence none =>
    (cond_told test.told (allTold consequence) (by nofun)).told
  | .cond test consequence (some alternative) =>
    (cond_told test.told (allTold consequence) fun _ same =>
      Option.some.inj same ▸ allTold alternative).told
  | .fn _ body => (fn_told (allTold body)).told
  | .call callee arguments => call_told callee.told (eachTold arguments)
termination_by structural e => e

theorem Stmt.told : ∀ s : Stmt, s.Told
  | .letStmt _ value => letStmt_told value.told
  | .returnStmt value => returnStmt_told value.told
  | .exprStmt value => exprStmt_told value.told
termination_by structural s => s

theorem allTold : ∀ ss : List Stmt, AllTold ss
  | [] => all_told_nil
  | statement :: statements => all_told_cons statement.told (allTold statements)
termination_by structural ss => ss

theorem eachTold : ∀ es : List Expr, EachTold es
  | [] => each_told_nil
  | argument :: arguments => each_told_cons argument.told (eachTold arguments)
termination_by structural es => es

end

theorem allKinds_injective {p q : Program} (same : allKinds p = allKinds q) : p = q := by
  have closed : allKinds p ++ [.rbrace] = allKinds q ++ [.rbrace] := by rw [same]
  exact (allTold p closed).1

/-- Programs with the same rendering are the same, whether or not they are read back from it. -/
theorem rendering_is_unambiguous {p q : Program} (lexical : AllLexical p)
    (lexical' : AllLexical q) : p.render = q.render ↔ p = q := by
  constructor
  · intro same
    have cuts := Program.cuts_of_lexical lexical
    rw [same] at cuts
    exact allKinds_injective (cuts.unique (Program.cuts_of_lexical lexical'))
  · exact congrArg Program.render

def numberCalled : Program :=
  [.exprStmt (.binary .minus (.call (.int (-5)) [.ident "x"]) (.int 2))]

def differenceNegated : Program :=
  [.exprStmt (.unary .minus (.binary .minus (.call (.int 5) [.ident "x"]) (.int 2)))]

theorem numberCalled_rendered_apart : AllLexical numberCalled ∧ AllLexical differenceNegated ∧
    numberCalled.render ≠ differenceNegated.render := by
  have named : Token.IsName "x" :=
    ⟨⟨'x', [], by decide, by decide, List.all_eq_true.1 (by decide)⟩, by decide⟩
  have first : AllLexical numberCalled :=
    ⟨⟨trivial, trivial, ⟨trivial, trivial, named, trivial⟩, trivial⟩, trivial⟩
  have second : AllLexical differenceNegated :=
    ⟨⟨trivial, trivial, trivial, ⟨trivial, trivial, named, trivial⟩, trivial⟩, trivial⟩
  have differ : numberCalled ≠ differenceNegated := by simp [numberCalled, differenceNegated]
  exact ⟨first, second, mt (rendering_is_unambiguous first second).1 differ⟩

end Monkey
