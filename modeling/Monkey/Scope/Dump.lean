import Monkey.Scope.Store

/-! Scopes in full: the names bound in a scope, in order, and the scopes around it. -/
namespace Monkey

def Scope.sortedNames (scope : Scope) : List String :=
  scope.names.mergeSort fun a b => decide (a ≤ b)

/-- An object bound in a scope may hold that very scope, so names alone are shown. -/
def Store.dump (store : Store) (scope : ScopeId) : String :=
  match store.scopes[scope]? with
  | none => ""
  | some here =>
    "Environment \x7b names: [" ++ String.intercalate ", " (here.sortedNames.map Text.quoted) ++
      "], outer: " ++
      (match here.outer with
      | none => "None"
      | some outer => if outer < scope then "Some(" ++ store.dump outer ++ ")" else "None") ++
      " \x7d"
termination_by scope

end Monkey
