import Monkey.Scope.Store

/-!
Evaluation steps. A step changes the store and ends in a value or in a signal, which every step
after it passes on until something stops it.
-/
namespace Monkey

inductive Signal
  | returned (value : Object)
  | failed (cause : EvalError)
  /-- Calls were nested more deeply than allowed. -/
  | exhausted
  deriving DecidableEq

def Eval (α : Type) := Store → Except Signal α × Store

namespace Eval

variable {α β : Type}

def pure (value : α) : Eval α := fun store => (.ok value, store)

def bind (step : Eval α) (next : α → Eval β) : Eval β := fun store =>
  match step store with
  | (.ok value, store) => next value store
  | (.error signal, store) => (.error signal, store)

instance : Monad Eval where
  pure := pure
  bind := bind

def signal (signal : Signal) : Eval α := fun store => (.error signal, store)

def fail (cause : EvalError) : Eval α := signal (.failed cause)

def create (object : ObjectId → Object) : Eval Object := fun store =>
  let (made, store) := store.create object
  (.ok made, store)

def integer (value : Int64) : Eval Object := create (.integer · value)

def string (text : String) : Eval Object := create (.string · text)

def boolean (value : Bool) : Eval Object := pure (.ofBool value)

def lookup (scope : ScopeId) (name : String) : Eval Object := fun store =>
  match store.get? scope name with
  | some value => (.ok value, store)
  | none => (.error (.failed (.unknownIdentifier name)), store)

def set (scope : ScopeId) (name : String) (value : Object) : Eval Unit := fun store =>
  (.ok (), store.set scope name value)

def openScope (outer : ScopeId) : Eval ScopeId := fun store =>
  let (scope, store) := store.openScope (some outer)
  (.ok scope, store)

/-- Where a function ends: a value that was returned is the value of the call. -/
def catchReturn (step : Eval Object) : Eval Object := fun store =>
  match step store with
  | (.error (.returned value), store) => (.ok value, store)
  | outcome => outcome

end Eval

end Monkey
