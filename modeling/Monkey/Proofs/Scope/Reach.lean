import Monkey.Scope.Store

/-!
What can be come by from some scopes and objects of a store: the scopes around a scope, and those
that the functions bound in it were made in. Stores may agree on that and differ elsewhere.
-/
namespace Monkey

/-- The object is a function that was made in the scope, or brings one along. -/
inductive Object.Captures : Object → ScopeId → Prop
  | function (id : ObjectId) (f : Function) : Captures (.function id f) f.scope
  | returnValue {inner : Object} {scope : ScopeId} (id : ObjectId) (captures : Captures inner scope) :
    Captures (.returnValue id inner) scope

inductive Scope.Refers (here : Scope) : ScopeId → Prop
  | outer {around : ScopeId} (lies : here.outer = some around) : Refers here around
  | bound {name : String} {value : Object} {scope : ScopeId} (binds : here.find? name = some value)
    (captures : value.Captures scope) : Refers here scope

namespace Store

inductive Reaches (store : Store) (scopes : List ScopeId) (objects : List Object) : ScopeId → Prop
  | scope {id : ScopeId} (start : id ∈ scopes) : Reaches store scopes objects id
  | object {value : Object} {id : ScopeId} (start : value ∈ objects) (captures : value.Captures id) :
    Reaches store scopes objects id
  | step {id next : ScopeId} {here : Scope} (reaches : Reaches store scopes objects id)
    (found : store.scopes[id]? = some here) (refers : here.Refers next) :
    Reaches store scopes objects next

end Store

structure Scope.Alike (a b : Scope) : Prop where
  outer : a.outer = b.outer
  find : ∀ name, a.find? name = b.find? name

theorem Scope.Alike.refl (scope : Scope) : scope.Alike scope := ⟨rfl, fun _ => rfl⟩

/-- The stores agree on all that can be come by from the scopes and the objects in the first one,
which is then also what can be come by from there in the second one. -/
def Store.AgreesWith (one two : Store) (scopes : List ScopeId) (objects : List Object) : Prop :=
  ∀ id, one.Reaches scopes objects id → Option.Rel Scope.Alike one.scopes[id]? two.scopes[id]?

end Monkey
