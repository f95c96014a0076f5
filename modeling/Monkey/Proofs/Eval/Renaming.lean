import Mathlib.Logic.Equiv.Basic
import Monkey.Proofs.Eval.Equivariance
import Monkey.Proofs.Eval.Frame

/-!
Renaming a whole state. No name means anything by itself: a program whose names are all replaced,
one to one, does in a store whose names are replaced in the same way what it did before, and no name
gets caught by another.
-/
namespace Monkey

variable (r : String → String)

def Function.rename (f : Function) : Function := ⟨f.parameters.map r, renameAll r f.body, f.scope⟩

/-- Identities stay, and so does all content but the text of functions and the names in errors. -/
def Object.rename : Object → Object
  | .returnValue id inner => .returnValue id inner.rename
  | .error id cause => .error id (cause.rename r)
  | .function id f => .function id (f.rename r)
  | other => other

def Scope.rename (scope : Scope) : Scope :=
  { scope with bindings := scope.bindings.map fun bound => (r bound.1, bound.2.rename r) }

def Store.rename (store : Store) : Store :=
  { store with scopes := store.scopes.map (·.rename r) }

section

variable {r} (injective : r.Injective)
include injective

theorem Scope.find?_rename (scope : Scope) (name : String) :
    (scope.rename r).find? (r name) = (scope.find? name).map (·.rename r) := by
  unfold Scope.find? Scope.rename
  dsimp only
  induction scope.bindings with
  | nil => rfl
  | cons first rest ih =>
    obtain ⟨bound, value⟩ := first
    rw [List.map_cons, List.lookup_cons, List.lookup_cons, ih]
    by_cases same : name = bound
    · simp [same]
    · have apart : r name ≠ r bound := fun equal => same (injective equal)
      simp only [beq_eq_false_iff_ne.2 same, beq_eq_false_iff_ne.2 apart]

theorem Scope.bind_rename (scope : Scope) (name : String) (value : Object) :
    (scope.bind name value).rename r = (scope.rename r).bind (r name) (value.rename r) := by
  -- a new name that stood for two old ones would take the binding of both away
  simp [Scope.bind, Scope.rename, List.filter_map, Function.comp_def, injective.eq_iff]

theorem Store.get?_rename (store : Store) (scope : ScopeId) (name : String) :
    (store.rename r).get? scope (r name) = (store.get? scope name).map (·.rename r) := by
  induction scope using Nat.strongRecOn with
  | ind scope ih =>
    cases found : store.scopes[scope]? with
    | none =>
      have found' : (store.rename r).scopes[scope]? = none := by simp [Store.rename, found]
      rw [get?_of_no_scope found, get?_of_no_scope found']
      rfl
    | some here =>
      have found' : (store.rename r).scopes[scope]? = some (here.rename r) := by
        simp [Store.rename, found]
      rw [get?_of_scope found, get?_of_scope found', here.find?_rename injective]
      cases here.find? name with
      | some value => rfl
      | none =>
        show ((here.outer).bind _ : Option Object) = Option.map _ (here.outer.bind _)
        cases here.outer with
        | none => rfl
        | some outer =>
          by_cases inner : outer < scope
          · simpa [inner] using ih outer inner
          · simp [inner]

theorem Store.set_rename (store : Store) (scope : ScopeId) (name : String) (value : Object) :
    (store.set scope name value).rename r =
      (store.rename r).set scope (r name) (value.rename r) := by
  have cells : (store.scopes.modify scope (·.bind name value)).map (·.rename r) =
      (store.scopes.map (·.rename r)).modify scope (·.bind (r name) (value.rename r)) := by
    apply Array.ext_getElem?
    intro id
    rw [Array.getElem?_map, Array.getElem?_modify, Array.getElem?_modify, Array.getElem?_map]
    split
    · cases store.scopes[id]? with
      | none => rfl
      | some here => exact congrArg some (here.bind_rename injective name value)
    · rfl
  simp only [Store.set, Store.rename, cells]

omit injective in
theorem Store.openScope_rename (store : Store) (outer : Option ScopeId) :
    (store.openScope outer).2.rename r = ((store.rename r).openScope outer).2 := by
  simp [Store.openScope, Store.rename, Scope.rename]

def Correspondence.renamed : Correspondence where
  name := r
  scope := Eq
  object := Eq
  name_injective same := injective same
  scope_order first second := by rw [first, second]
  object_unique first second := by rw [first, second]
  constant _ := rfl

theorem Correspondence.renamed_objects_iff {a b : Object} :
    (renamed injective).Objects a b ↔ b = a.rename r := by
  constructor
  · intro objects
    induction objects with
    | integer ids | boolean ids | string ids | null ids | error ids =>
      cases ids
      rfl
    | returnValue ids inner ih =>
      cases ids
      rw [ih]
      rfl
    | @function _ _ f g ids functions =>
      cases ids
      obtain ⟨parameters, body, scope⟩ := functions
      cases g
      cases parameters
      cases body
      cases scope
      rfl
  · rintro rfl
    induction a with
    | integer id value => exact .integer rfl value
    | boolean id value => exact .boolean rfl value
    | string id text => exact .string rfl text
    | null id => exact .null rfl
    | returnValue id inner ih => exact .returnValue rfl ih
    | error id cause => exact .error rfl cause
    | function id function => exact .function rfl ⟨rfl, rfl, rfl⟩

/-- What is done to a store whose names were replaced leads to a store whose names were replaced. -/
theorem Correspondence.renamed_keeps :
    (renamed injective).Keeps fun store other => other = store.rename r where
  next_object same := by rw [same]; rfl
  next_scope same := by rw [same]; simp [renamed, Store.rename]
  get? {s t i j} same scopes name := by
    cases scopes
    rw [same, show (renamed injective).name name = r name from rfl,
      s.get?_rename injective]
    cases s.get? i name with
    | none => exact .none
    | some value => exact .some ((renamed_objects_iff injective).2 rfl)
  counted same := by rw [same]; rfl
  set {s t i j v w} same scopes name values := by
    cases scopes
    rw [same, (renamed_objects_iff injective).1 values]
    exact (s.set_rename injective i name v).symm
  openScope {s t i j} same scopes := by
    cases scopes
    rw [same]
    exact (s.openScope_rename _).symm

end

variable {r}

/-- When all names of a program and of a store are replaced, no two of them by the same one, an
evaluation ends if and only if it ended before. Then it gives the same object and leaves the same
store, but for the names in them. -/
theorem evaluation_commutes_with_renaming (injective : r.Injective) (scope : ScopeId) (node : Node)
    (store : Store) :
    ((∃ depth, (Eval.node depth scope (node.rename r) (store.rename r)).1.isSome) ↔
        ∃ depth, (Eval.node depth scope node store).1.isSome) ∧
      ∀ depth, Eval.node depth scope (node.rename r) (store.rename r) =
        ((Eval.node depth scope node store).1.map (·.rename r),
          (Eval.node depth scope node store).2.rename r) := by
  have commutes (depth : Nat) : Eval.node depth scope (node.rename r) (store.rename r) =
      ((Eval.node depth scope node store).1.map (·.rename r),
        (Eval.node depth scope node store).2.rename r) := by
    have start : store.rename r = store.rename r := rfl
    obtain ⟨objects, stores⟩ := Correspondence.node_keeps (Correspondence.renamed_keeps injective)
      depth (Eq.refl scope) node start
    refine Prod.ext ?_ stores
    change Option.Rel _ _ (Eval.node depth scope (node.rename r) (store.rename r)).1 at objects
    generalize (Eval.node depth scope node store).1 = before at objects
    generalize (Eval.node depth scope (node.rename r) (store.rename r)).1 = after at objects
    cases objects with
    | none => rfl
    | some same => exact congrArg some ((Correspondence.renamed_objects_iff injective).1 same)
  refine ⟨?_, commutes⟩
  simp only [commutes, Option.isSome_map]

/-- The program `let f = fn(a) { b }; f(true)`. -/
def missingName : Program :=
  [.letStmt "f" (.fn ["a"] [.exprStmt (.ident "b")]),
    .exprStmt (.call (.ident "f") [.bool true])]

theorem missingName_swapped :
    (Equiv.swap "a" "b" : String → String).Injective ∧
      (Eval.node 1 0 ((Node.program missingName).rename (Equiv.swap "a" "b"))
        (Store.initial.rename (Equiv.swap "a" "b"))) =
      (some (.error 4 (.unknownIdentifier "a")),
        ⟨#[⟨[("f", .function 3 ⟨["b"], [.exprStmt (.ident "a")], 0⟩)], none⟩,
          ⟨[("b", .ofBool true)], some 0⟩], 5⟩) := by
  have swaps : (Equiv.swap "a" "b" : String → String).Injective := Equiv.injective _
  refine ⟨swaps, ?_⟩
  rw [(evaluation_commutes_with_renaming swaps 0 (.program missingName) .initial).2 1]
  decide +kernel

end Monkey
