import Monkey.Proofs.Eval.Steps
import Monkey.Proofs.Program.Throughout

/-!
Bookkeepings. An evaluation is followed with a book at hand. A book goes with a store and may tell
more than the store does, such as which objects were made so far. A bookkeeping says what holds of
the book while something is evaluated in a scope, how the book may change meanwhile, what the values
are like, and of what expressions and statements the text is made. If making, looking up and binding
objects can be entered in the book, and opening a scope for a call can, then every evaluation can,
and an error comes of such values and such a text.
-/
namespace Monkey

variable {α β Book : Type}

/-- The objects that evaluation in the scope makes, but for their identity, if the text is made of
expressions that satisfy `p` and statements that satisfy `q`. -/
inductive Makes (p : Expr → Prop) (q : Stmt → Prop) (scope : ScopeId) : (ObjectId → Object) → Prop
  | integer (value : Int64) : Makes p q scope (.integer · value)
  | string (text : String) : Makes p q scope (.string · text)
  | function {parameters : List String} {body : Block}
    (text : (Expr.fn parameters body).Throughout p q) :
    Makes p q scope (.function · ⟨parameters, body, scope⟩)

/-- How an error comes of values that fit and of a text whose expressions satisfy `p`. -/
inductive EvalError.Raised (Fits : Object → Prop) (p : Expr → Prop) : EvalError → Prop
  | typeMismatch {left right : Object} {op : BinaryOp} (leftFits : Fits left)
    (rightFits : Fits right) (differ : left.type ≠ right.type) (notEqual : op ≠ .equal)
    (notNotEqual : op ≠ .notEqual) : Raised Fits p (.typeMismatch left.type right.type op)
  | unknownBinary {left right : Object} {op : BinaryOp} (leftFits : Fits left)
    (rightFits : Fits right) (alike : left.type = right.type) (noInteger : left.type ≠ .integer)
    (notEqual : op ≠ .equal) (notNotEqual : op ≠ .notEqual)
    (noSum : left.type = .string → op ≠ .plus) :
    Raised Fits p (.unknownBinary left.type right.type op)
  | unknownUnary {operand : Object} (fits : Fits operand) (noInteger : operand.type ≠ .integer) :
    Raised Fits p (.unknownUnary operand.type .minus)
  | unknownIdentifier {name : String} (asked : p (.ident name)) :
    Raised Fits p (.unknownIdentifier name)
  | callNonFunction {value : Object} (fits : Fits value) (noFunction : value.type ≠ .function) :
    Raised Fits p (.callNonFunction value.type)
  | wrongArgumentCount {expected actual : Nat} (differ : expected ≠ actual) :
    Raised Fits p (.wrongArgumentCount expected actual)
  | divisionByZero : Raised Fits p .divisionByZero

def Node.Throughout (p : Expr → Prop) (q : Stmt → Prop) : Node → Prop
  | .program body => AllThroughout p q body
  | .block body => AllThroughout p q body
  | .statement stmt => stmt.Throughout p q
  | .expression expr => expr.Throughout p q

theorem Node.throughout_of_all {p : Expr → Prop} {q : Stmt → Prop} (exprs : ∀ e, p e)
    (stmts : ∀ s, q s) : ∀ node : Node, node.Throughout p q
  | .program body => allThroughout_of_all exprs stmts body
  | .block body => allThroughout_of_all exprs stmts body
  | .statement stmt => stmt.throughout_of_all exprs stmts
  | .expression expr => expr.throughout_of_all exprs stmts

structure Bookkeeping (Book : Type) where
  store : Book → Store
  Holds : ScopeId → Book → Prop
  Changes : ScopeId → Book → Book → Prop
  Fits : Book → Object → Prop
  OfExpr : Expr → Prop
  OfStmt : Stmt → Prop
  unchanged : ∀ scope book, Changes scope book book
  changes_trans : ∀ {scope first second third}, Changes scope first second →
    Changes scope second third → Changes scope first third
  fits_later : ∀ {scope book later value}, Changes scope book later → Fits book value →
    Fits later value
  created : ∀ {scope book object}, Holds scope book → Makes OfExpr OfStmt scope object →
    ∃ later, store later = ((store book).create object).2 ∧ Holds scope later ∧
      Changes scope book later ∧ Fits later ((store book).create object).1
  null : ∀ {scope book}, Holds scope book → Fits book .theNull
  boolean : ∀ {scope book}, Holds scope book → ∀ value, Fits book (.ofBool value)
  found : ∀ {scope book name value}, Holds scope book →
    (store book).get? scope name = some value → Fits book value
  bound : ∀ {scope book value}, Holds scope book → Fits book value → ∀ name,
    ∃ later, store later = (store book).set scope name value ∧ Holds scope later ∧
      Changes scope book later
  written : ∀ {book id function}, Fits book (.function id function) →
    AllThroughout OfExpr OfStmt function.body
  /-- What is kept in the scope of a call is kept in the scope that the call is made in. -/
  entered : ∀ {scope book id function}, Holds scope book → Fits book (.function id function) →
    ∃ opened, store opened = ((store book).openScope (some function.scope)).2 ∧
      Holds (store book).scopes.size opened ∧
      ∀ later, Holds (store book).scopes.size later →
        Changes (store book).scopes.size opened later →
        Holds scope later ∧ Changes scope book later

namespace Bookkeeping

variable {k : Bookkeeping Book} {scope : ScopeId} {book : Book}

/-- The step that was begun with the one book ended with the other. What is said of its result is
`Good`. -/
structure Ends (k : Bookkeeping Book) (scope : ScopeId) (book later : Book)
    (Good : Book → α → Prop) (result : Except Signal α × Store) : Prop where
  store : k.store later = result.2
  holds : k.Holds scope later
  changes : k.Changes scope book later
  good : ∀ value, result.1 = .ok value → Good later value
  returned : ∀ value, result.1 = .error (.returned value) → k.Fits later value
  failed : ∀ cause, result.1 = .error (.failed cause) → cause.Raised (k.Fits later) k.OfExpr

def Kept (k : Bookkeeping Book) (scope : ScopeId) (book : Book) (Good : Book → α → Prop)
    (result : Except Signal α × Store) : Prop :=
  ∃ later, k.Ends scope book later Good result

variable {Good : Book → α → Prop} {Fine : Book → β → Prop} {later : Book}

theorem Ends.of_value {store : Store} (entered : k.store later = store)
    (holds : k.Holds scope later) (changes : k.Changes scope book later) {value : α}
    (good : Good later value) : k.Ends scope book later Good (.ok value, store) where
  store := entered
  holds := holds
  changes := changes
  good _ same := by
    cases same
    exact good
  returned _ same := by cases same
  failed _ same := by cases same

/-- Nothing is said of a result that there is not. -/
theorem Ends.of_stop {stop : Signal} {store : Store}
    (ends : k.Ends scope book later Good (.error stop, store)) :
    k.Ends scope book later Fine (.error stop, store) where
  store := ends.store
  holds := ends.holds
  changes := ends.changes
  good _ same := by cases same
  returned value same := by
    cases same
    exact ends.returned value rfl
  failed cause same := by
    cases same
    exact ends.failed cause rfl

theorem Kept.pure (holds : k.Holds scope book) {value : α} (good : Good book value) :
    k.Kept scope book Good (Eval.pure value (k.store book)) :=
  ⟨book, .of_value rfl holds (k.unchanged scope book) good⟩

theorem Kept.signal (holds : k.Holds scope book) {stop : Signal}
    (fits : ∀ value, stop = .returned value → k.Fits book value)
    (raised : ∀ cause, stop = .failed cause → cause.Raised (k.Fits book) k.OfExpr) :
    k.Kept scope book Good (Eval.signal stop (k.store book)) := by
  refine ⟨book, rfl, holds, k.unchanged scope book, ?_, ?_, ?_⟩
  · intro value same
    cases same
  · intro value same
    exact fits value (Except.error.inj same)
  · intro cause same
    exact raised cause (Except.error.inj same)

theorem Kept.fail (holds : k.Holds scope book) {cause : EvalError}
    (raised : cause.Raised (k.Fits book) k.OfExpr) :
    k.Kept scope book Good (Eval.fail cause (k.store book)) := by
  refine .signal holds (fun _ same => by cases same) ?_
  rintro _ ⟨⟩
  exact raised

theorem Kept.bind {step : Eval α} {next : α → Eval β}
    (kept : k.Kept scope book Good (step (k.store book)))
    (goesOn : ∀ value later, k.Holds scope later → k.Changes scope book later →
      Good later value → k.Kept scope later Fine (next value (k.store later))) :
    k.Kept scope book Fine ((step >>= next) (k.store book)) := by
  obtain ⟨middle, ends⟩ := kept
  cases result : step (k.store book) with
  | mk outcome later =>
    rw [result] at ends
    obtain rfl : k.store middle = later := ends.store
    cases outcome with
    | ok value =>
      rw [Eval.bind_of_ok result]
      obtain ⟨last, rest⟩ := goesOn value middle ends.holds ends.changes (ends.good value rfl)
      exact ⟨last, rest.store, rest.holds, k.changes_trans ends.changes rest.changes, rest.good,
        rest.returned, rest.failed⟩
    | error stop =>
      rw [Eval.bind_of_error result]
      exact ⟨middle, ends.of_stop⟩

theorem Kept.catchReturn {step : Eval Object}
    (kept : k.Kept scope book k.Fits (step (k.store book))) :
    k.Kept scope book k.Fits (Eval.catchReturn step (k.store book)) := by
  obtain ⟨later, ends⟩ := kept
  unfold Eval.catchReturn
  generalize step (k.store book) = result at ends
  obtain ⟨outcome, last⟩ := result
  cases outcome with
  | ok value => exact ⟨later, ends⟩
  | error stop =>
    cases stop with
    | returned value =>
      exact ⟨later, .of_value ends.store ends.holds ends.changes (ends.returned value rfl)⟩
    | failed cause => exact ⟨later, ends⟩
    | exhausted => exact ⟨later, ends⟩

theorem kept_create (holds : k.Holds scope book) {object : ObjectId → Object}
    (makes : Makes k.OfExpr k.OfStmt scope object) :
    k.Kept scope book k.Fits (Eval.create object (k.store book)) := by
  obtain ⟨later, store, after, changes, fits⟩ := k.created holds makes
  exact ⟨later, .of_value store after changes fits⟩

theorem kept_integer (holds : k.Holds scope book) (value : Int64) :
    k.Kept scope book k.Fits (Eval.integer value (k.store book)) :=
  kept_create holds (.integer value)

theorem kept_string (holds : k.Holds scope book) (text : String) :
    k.Kept scope book k.Fits (Eval.string text (k.store book)) :=
  kept_create holds (.string text)

theorem kept_boolean (holds : k.Holds scope book) (value : Bool) :
    k.Kept scope book k.Fits (Eval.boolean value (k.store book)) :=
  .pure holds (k.boolean holds value)

theorem kept_null (holds : k.Holds scope book) :
    k.Kept scope book k.Fits (Eval.pure .theNull (k.store book)) :=
  .pure holds (k.null holds)

theorem kept_lookup (holds : k.Holds scope book) {name : String} (asked : k.OfExpr (.ident name)) :
    k.Kept scope book k.Fits (Eval.lookup scope name (k.store book)) := by
  unfold Eval.lookup
  split
  · next value found => exact .pure holds (k.found holds found)
  · exact .fail holds (.unknownIdentifier asked)

theorem kept_set (holds : k.Holds scope book) (name : String) {value : Object}
    (fits : k.Fits book value) :
    k.Kept scope book (fun _ _ => True) (Eval.set scope name value (k.store book)) := by
  obtain ⟨later, store, after, changes⟩ := k.bound holds fits name
  exact ⟨later, .of_value store after changes trivial⟩

theorem kept_unary (holds : k.Holds scope book) (op : UnaryOp) {operand : Object}
    (fits : k.Fits book operand) :
    k.Kept scope book k.Fits (Eval.applyUnary op operand (k.store book)) := by
  unfold Eval.applyUnary
  split
  · exact kept_boolean holds _
  · exact kept_integer holds _
  · next noInteger =>
    refine .fail holds (.unknownUnary fits ?_)
    cases operand with
    | integer id value => exact absurd rfl (noInteger id value)
    | _ => simp [Object.type]

theorem kept_binary (holds : k.Holds scope book) (op : BinaryOp) {left right : Object}
    (leftFits : k.Fits book left) (rightFits : k.Fits book right) :
    k.Kept scope book k.Fits (Eval.applyBinary op left right (k.store book)) := by
  cases Eval.operands left right with
  | integers i j a b =>
    show k.Kept scope book k.Fits (Eval.applyToIntegers op a b (k.store book))
    cases op with
    | plus | minus | multiply => exact kept_integer holds _
    | divide =>
      unfold Eval.applyToIntegers
      split
      · exact .fail holds .divisionByZero
      · exact kept_integer holds _
    | lessThan | greaterThan | equal | notEqual => exact kept_boolean holds _
  | strings i j a b =>
    show k.Kept scope book k.Fits (Eval.applyToStrings op a b (k.store book))
    cases op with
    | plus => exact kept_string holds _
    | equal | notEqual => exact kept_boolean holds _
    | minus | multiply | divide | lessThan | greaterThan =>
      exact .fail holds (.unknownBinary leftFits rightFits rfl (by simp [Object.type]) (by simp)
        (by simp) (by simp))
  | others apart =>
    rw [Eval.applyBinary_of_apart apart]
    unfold Eval.applyToOthers
    split
    · exact kept_boolean holds _
    · exact kept_boolean holds _
    · next notEqual notNotEqual =>
      split
      · next differ =>
        exact .fail holds (.typeMismatch leftFits rightFits differ notEqual notNotEqual)
      · next alike =>
        obtain ⟨noInteger, noString⟩ := apart.resolve_left alike
        exact .fail holds (.unknownBinary leftFits rightFits (Decidable.not_not.1 alike) noInteger
          notEqual notNotEqual fun isString => absurd isString noString)

def AllFit (k : Bookkeeping Book) (book : Book) (values : List Object) : Prop :=
  ∀ value ∈ values, k.Fits book value

/-- Calls, however they are carried out, can be entered if what they are given fits. -/
def CallsKept (k : Bookkeeping Book) (call : Eval.Call) : Prop :=
  ∀ ⦃scope book function arguments⦄, k.Holds scope book →
    (∃ id, k.Fits book (.function id function)) → k.AllFit book arguments →
    k.Kept scope book k.Fits (call function arguments (k.store book))

variable {call : Eval.Call}

mutual

theorem kept_expression (calls : k.CallsKept call) : ∀ (e : Expr) {book : Book},
    e.Throughout k.OfExpr k.OfStmt → k.Holds scope book →
    k.Kept scope book k.Fits (Eval.expression call scope e (k.store book))
  | .ident name, _, text, holds => kept_lookup holds text
  | .int value, _, _, holds => kept_integer holds value
  | .string contents, _, _, holds => kept_string holds contents
  | .bool value, _, _, holds => kept_boolean holds value
  | .unary op operand, _, ⟨_, inner⟩, holds => by
    apply (kept_expression calls operand inner holds).bind
    intro right later holds _ fits
    exact kept_unary holds op fits
  | .binary op left right, _, ⟨_, leftText, rightText⟩, holds => by
    apply (kept_expression calls left leftText holds).bind
    intro first later holds _ firstFits
    apply (kept_expression calls right rightText holds).bind
    intro second later holds changes secondFits
    exact kept_binary holds op (k.fits_later changes firstFits) secondFits
  | .cond test consequence none, _, ⟨_, testText, branch⟩, holds => by
    apply (kept_expression calls test testText holds).bind
    intro chosen later holds _ _
    split
    · exact kept_statements calls consequence branch holds (k.null holds)
    · exact kept_null holds
  | .cond test consequence (some alternative), _, ⟨_, testText, branch, other⟩, holds => by
    apply (kept_expression calls test testText holds).bind
    intro chosen later holds _ _
    split
    · exact kept_statements calls consequence branch holds (k.null holds)
    · exact kept_statements calls alternative other holds (k.null holds)
  | .fn parameters body, _, text, holds => kept_create holds (.function text)
  | .call callee arguments, _, ⟨_, calleeText, given⟩, holds => by
    apply (kept_expression calls callee calleeText holds).bind
    intro value later holds _ fits
    split
    · apply (kept_expressions calls arguments given holds).bind
      intro given later holds changes allFit
      exact calls holds ⟨_, k.fits_later changes fits⟩ allFit
    · next noFunction =>
      refine .fail holds (.callNonFunction fits ?_)
      cases value with
      | function id f => exact absurd rfl (noFunction id f)
      | _ => simp [Object.type]
termination_by structural e => e

theorem kept_expressions (calls : k.CallsKept call) : ∀ (es : List Expr) {book : Book},
    EachThroughout k.OfExpr k.OfStmt es → k.Holds scope book →
    k.Kept scope book k.AllFit (Eval.expressions call scope es (k.store book))
  | [], _, _, holds => .pure holds (by intro value member; cases member)
  | argument :: arguments, _, ⟨first, others⟩, holds => by
    apply (kept_expression calls argument first holds).bind
    intro value later holds _ fits
    apply (kept_expressions calls arguments others holds).bind
    intro values later holds changes allFit
    apply Kept.pure holds
    exact List.forall_mem_cons.2 ⟨k.fits_later changes fits, allFit⟩
termination_by structural es => es

theorem kept_statement (calls : k.CallsKept call) : ∀ (s : Stmt) {book : Book},
    s.Throughout k.OfExpr k.OfStmt → k.Holds scope book →
    k.Kept scope book k.Fits (Eval.statement call scope s (k.store book))
  | .letStmt name value, _, ⟨_, text⟩, holds => by
    apply (kept_expression calls value text holds).bind
    intro value later holds _ fits
    apply (kept_set holds name fits).bind
    intro _ later holds _ _
    exact kept_null holds
  | .returnStmt value, _, ⟨_, text⟩, holds => by
    apply (kept_expression calls value text holds).bind
    intro value later holds _ fits
    apply Kept.signal holds
    · intro other same
      cases same
      exact fits
    · intro cause same
      cases same
  | .exprStmt value, _, ⟨_, text⟩, holds => kept_expression calls value text holds
termination_by structural s => s

theorem kept_statements (calls : k.CallsKept call) : ∀ (ss : List Stmt) {book : Book}
    {last : Object}, AllThroughout k.OfExpr k.OfStmt ss → k.Holds scope book → k.Fits book last →
    k.Kept scope book k.Fits (Eval.statements call scope last ss (k.store book))
  | [], _, _, _, holds, fits => .pure holds fits
  | first :: rest, _, _, ⟨firstText, others⟩, holds, _ => by
    apply (kept_statement calls first firstText holds).bind
    intro value later holds _ fits
    exact kept_statements calls rest others holds fits
termination_by structural ss => ss

end

theorem kept_block (calls : k.CallsKept call) {body : Block}
    (text : AllThroughout k.OfExpr k.OfStmt body) (holds : k.Holds scope book) :
    k.Kept scope book k.Fits (Eval.block call scope body (k.store book)) :=
  kept_statements calls body text holds (k.null holds)

theorem kept_bindAll {pairs : List (String × Object)} (holds : k.Holds scope book)
    (fit : ∀ pair ∈ pairs, k.Fits book pair.2) :
    k.Kept scope book (fun _ _ => True) (Eval.bindAll scope pairs (k.store book)) := by
  induction pairs generalizing book with
  | nil => exact .pure holds trivial
  | cons first rest ih =>
    obtain ⟨fits, others⟩ := List.forall_mem_cons.1 fit
    apply (kept_set holds first.1 fits).bind
    intro _ later holds changes _
    exact ih holds fun pair here => k.fits_later changes (others pair here)

/-- The scope of a call is a new one, and what the body then keeps there the call keeps. -/
theorem entered_of_enter {id : ObjectId} {function : Function} {arguments : List Object}
    {inner : ScopeId} {start : Store} (holds : k.Holds scope book)
    (fits : k.Fits book (.function id function)) (allFit : k.AllFit book arguments)
    (enters : Eval.enter? function arguments (k.store book) = some (inner, start)) :
    ∃ entered, k.store entered = start ∧ k.Holds inner entered ∧
      ∀ later, k.Holds inner later → k.Changes inner entered later →
        k.Holds scope later ∧ k.Changes scope book later := by
  unfold Eval.enter? at enters
  split at enters
  · contradiction
  · cases enters
    obtain ⟨opened, store, inside, left⟩ := k.entered holds fits
    -- opening the scope is a change as well, and the arguments fit behind it
    obtain ⟨-, changes⟩ := left opened inside (k.unchanged _ _)
    have fit : ∀ pair ∈ function.parameters.zip arguments, k.Fits opened pair.2 := by
      rintro ⟨name, value⟩ pair
      exact k.fits_later changes (allFit value (List.of_mem_zip pair).2)
    obtain ⟨entered, binds⟩ := kept_bindAll inside fit
    rw [store] at binds
    refine ⟨entered, binds.store, binds.holds, ?_⟩
    intro later after changes
    exact left later after (k.changes_trans binds.changes changes)

theorem kept_apply (k : Bookkeeping Book) (depth : Nat) : k.CallsKept (Eval.apply depth) := by
  induction depth with
  | zero =>
    intro scope book function arguments holds _ _
    exact .signal holds (fun _ same => by cases same) fun _ same => by cases same
  | succ depth ih =>
    rintro scope book function arguments holds ⟨id, fits⟩ allFit
    rw [Eval.apply_succ]
    cases enters : Eval.enter? function arguments (k.store book) with
    | none => exact .fail holds (.wrongArgumentCount (Eval.length_ne_of_enter? enters))
    | some entered =>
      obtain ⟨inner, start⟩ := entered
      obtain ⟨entered, rfl, inside, left⟩ := entered_of_enter holds fits allFit enters
      obtain ⟨later, body⟩ := (kept_block ih (k.written fits) inside).catchReturn
      obtain ⟨outside, changes⟩ := left later body.holds body.changes
      exact ⟨later, body.store, outside, changes, body.good, body.returned, body.failed⟩

theorem kept_run (k : Bookkeeping Book) (depth : Nat) (scope : ScopeId) {node : Node}
    (text : node.Throughout k.OfExpr k.OfStmt) (holds : k.Holds scope book) :
    k.Kept scope book k.Fits (Eval.run (Eval.apply depth) scope node (k.store book)) := by
  have calls := k.kept_apply depth
  cases node with
  | program program => exact (kept_block calls text holds).catchReturn
  | block body => exact kept_block calls text holds
  | statement stmt => exact kept_statement calls stmt text holds
  | expression expr => exact kept_expression calls expr text holds

end Bookkeeping

end Monkey
