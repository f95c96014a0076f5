import Monkey.Eval.Entry

/-!
The parts of an evaluation, brought into the form in which proofs follow them: what a step comes to
when another is to follow, the operators by kinds of operand, and a call once its scope is open.
-/
namespace Monkey.Eval

variable {α β : Type}

theorem bind_of_ok {step : Eval α} {store after : Store} {value : α}
    (gives : step store = (.ok value, after)) (next : α → Eval β) :
    (step >>= next) store = next value after := by
  show Eval.bind step next store = _
  rw [Eval.bind, gives]

theorem bind_of_error {step : Eval α} {store after : Store} {stop : Signal}
    (stops : step store = (.error stop, after)) (next : α → Eval β) :
    (step >>= next) store = (.error stop, after) := by
  show Eval.bind step next store = _
  rw [Eval.bind, stops]

def applyToOthers (op : BinaryOp) (left right : Object) : Eval Object :=
  match op with
  | .equal => boolean (left.identical right)
  | .notEqual => boolean (!left.identical right)
  | _ =>
    if left.type ≠ right.type then fail (.typeMismatch left.type right.type op)
    else fail (.unknownBinary left.type right.type op)

def Apart (left right : Object) : Prop :=
  left.type ≠ right.type ∨ left.type ≠ .integer ∧ left.type ≠ .string

inductive Operands : Object → Object → Prop
  | integers (i j : ObjectId) (a b : Int64) : Operands (.integer i a) (.integer j b)
  | strings (i j : ObjectId) (a b : String) : Operands (.string i a) (.string j b)
  | others {left right : Object} (apart : Apart left right) : Operands left right

theorem operands (left right : Object) : Operands left right := by
  cases left <;> cases right <;>
    first
    | exact .integers ..
    | exact .strings ..
    | exact .others (by simp [Apart, Object.type])

theorem applyBinary_of_apart {left right : Object} (apart : Apart left right) (op : BinaryOp) :
    applyBinary op left right = applyToOthers op left right := by
  unfold applyBinary
  split
  · simp [Apart, Object.type] at apart
  · simp [Apart, Object.type] at apart
  · rfl

theorem catchReturn_congr {step step' : Eval Object} {store : Store}
    (same : step store = step' store) : catchReturn step store = catchReturn step' store := by
  rw [catchReturn, catchReturn, same]

theorem catchReturn_ne_returned (step : Eval Object) (store : Store) (value : Object) :
    (catchReturn step store).1 ≠ .error (.returned value) := by
  unfold catchReturn
  split
  · exact fun same => by cases same
  · next other => exact fun same => other value _ (Prod.ext same rfl)

/-- A node as a step, before its outcome is made an object. -/
def run (call : Call) (scope : ScopeId) : Node → Eval Object
  | .program program => catchReturn (block call scope program)
  | .block statements => block call scope statements
  | .statement stmt => statement call scope stmt
  | .expression expr => expression call scope expr

theorem node_eq (depth : Nat) (scope : ScopeId) (node : Node) (store : Store) :
    Eval.node depth scope node store = toObject? (run (apply depth) scope node store) := by
  cases node <;> rfl

/-- The scope of a call and the store in which its body starts, unless the number of arguments is
wrong. -/
def enter? (function : Function) (arguments : List Object) (store : Store) :
    Option (ScopeId × Store) :=
  if function.parameters.length ≠ arguments.length then none
  else
    let (scope, opened) := store.openScope (some function.scope)
    some (scope, (bindAll scope (function.parameters.zip arguments) opened).2)

theorem length_ne_of_enter? {function : Function} {arguments : List Object} {store : Store}
    (refused : enter? function arguments store = none) :
    function.parameters.length ≠ arguments.length := by
  unfold enter? at refused
  split at refused
  · assumption
  · contradiction

theorem bindAll_ok (scope : ScopeId) (pairs : List (String × Object)) (store : Store) :
    bindAll scope pairs store = (.ok (), (bindAll scope pairs store).2) := by
  induction pairs generalizing store with
  | nil => rfl
  | cons first rest ih => exact ih _

theorem apply_succ (depth : Nat) (function : Function) (arguments : List Object) (store : Store) :
    apply (depth + 1) function arguments store =
      match enter? function arguments store with
      | none => fail (.wrongArgumentCount function.parameters.length arguments.length) store
      | some (scope, start) => catchReturn (block (apply depth) scope function.body) start := by
  unfold enter?
  rw [apply]
  split
  · rfl
  · exact bind_of_ok (bindAll_ok ..) _

end Monkey.Eval
