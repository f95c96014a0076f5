import Mathlib.Logic.Relation
import Monkey.Eval.Entry
import Monkey.Proofs.Scope.Binding

/-!
Sessions. The user of the evaluator opens scopes, looks names up, makes objects and binds them, and
evaluates nodes in any scope and any order. What the user gets hold of is what the constructors and
the evaluator gave out, and nothing else.
-/
namespace Monkey

/-- A store and the objects that its user got hold of. -/
structure Session where
  store : Store
  held : List Object

namespace Session

def start : Session := ⟨.empty, []⟩

def Knows (session : Session) (scope : ScopeId) : Prop := scope < session.store.scopes.size

/-- The objects that can be made from what the session has, but for their identity. -/
inductive CanMake (session : Session) : (ObjectId → Object) → Prop
  | integer (value : Int64) : CanMake session (.integer · value)
  | string (text : String) : CanMake session (.string · text)
  | returnValue {inner : Object} (held : inner ∈ session.held) :
    CanMake session (.returnValue · inner)
  | error (cause : EvalError) : CanMake session (.error · cause)
  | function (parameters : List String) (body : Block) (scope : ScopeId)
    (known : session.Knows scope) : CanMake session (.function · ⟨parameters, body, scope⟩)

inductive Step (session : Session) : Session → Prop
  | openScope {outer : Option ScopeId} (known : ∀ scope, outer = some scope → session.Knows scope) :
    Step session { session with store := (session.store.openScope outer).2 }
  | get {scope : ScopeId} {name : String} {value : Object}
    (found : session.store.get? scope name = some value) :
    Step session { session with held := value :: session.held }
  | set (scope : ScopeId) (known : session.Knows scope) (name : String) {value : Object}
    (held : value ∈ session.held) :
    Step session { session with store := session.store.set scope name value }
  | null : Step session { session with held := .theNull :: session.held }
  | boolean (value : Bool) : Step session { session with held := .ofBool value :: session.held }
  | create {object : ObjectId → Object} (can : session.CanMake object) :
    Step session ⟨(session.store.create object).2, (session.store.create object).1 :: session.held⟩
  | unwrap {id : ObjectId} {inner : Object} (held : .returnValue id inner ∈ session.held) :
    Step session { session with held := inner :: session.held }
  | evaluate (depth : Nat) (scope : ScopeId) (known : session.Knows scope) (node : Node)
    {value : Object} {later : Store}
    (gives : Eval.node depth scope node session.store = (some value, later)) :
    Step session ⟨later, value :: session.held⟩

def Reached (session : Session) : Prop := Relation.ReflTransGen Step start session

inductive Has (session : Session) : Object → Prop
  | held {object : Object} (held : object ∈ session.held) : Has session object
  | bound {object : Object} (binds : session.store.Binds object) : Has session object
  | inner {id : ObjectId} {object : Object} (outside : Has session (.returnValue id object)) :
    Has session object

end Session

end Monkey
