import Monkey.Proofs.Eval.Renewal

/-!
What cannot be come by does not matter. Two stores that agree on what can be come by from a scope,
or from a function and what it is given, lead to the same outcomes but for the identities of what is
made on the way, and to stores that agree again.
-/
namespace Monkey
open Correspondence

variable {one two : Store}

def Eval.valuesOf : Except Signal Object → List Object
  | .ok value => [value]
  | .error (.returned value) => [value]
  | .error _ => []

theorem forall₂_toList {m : Correspondence} {first second : Option Object}
    (results : Option.Rel m.Objects first second) :
    List.Forall₂ m.Objects first.toList second.toList := by
  cases results with
  | none => exact .nil
  | some values => exact .cons values .nil

theorem forall₂_valuesOf {m : Correspondence} {first second : Except Signal Object}
    (outcomes : m.Outcomes m.Objects first second) :
    List.Forall₂ m.Objects (Eval.valuesOf first) (Eval.valuesOf second) := by
  cases outcomes with
  | ok values => exact .cons values .nil
  | error signals =>
    cases signals with
    | returned values => exact .cons values .nil
    | failed cause => exact .nil
    | exhausted => exact .nil

theorem node_renews (valid : one.Valid) (valid' : two.Valid) {scope : ScopeId}
    (known : scope < one.scopes.size) (agree : one.AgreesWith two [scope] []) (node : Node)
    (depth : Nat) :
    ∃ m : Correspondence,
      m.Renewing one (Eval.node depth scope node one).2 two (Eval.node depth scope node two).2 ∧
      Option.Rel m.Objects (Eval.node depth scope node one).1 (Eval.node depth scope node two).1 ∧
      m.Agree (Eval.node depth scope node one).2 (Eval.node depth scope node two).2 [scope]
        (Eval.node depth scope node one).1.toList (Eval.node depth scope node two).1.toList := by
  obtain ⟨m, names, stores, kept, -, renews⟩ :=
    exists_renewal valid valid' (List.forall_mem_singleton.2 known) (by simp) agree
  obtain ⟨results, later⟩ := m.node_corresponds depth (kept scope (by simp)) node stores
  rw [names, node.rename_id] at results later
  obtain ⟨-, grows⟩ := valid.node known depth node
  exact ⟨m, renews grows later, results, later.agree names kept (forall₂_toList results)⟩

theorem call_renews (valid : one.Valid) (valid' : two.Valid) {function : Function}
    {arguments : List Object} (known : function.scope < one.scopes.size)
    (given : ∀ value ∈ arguments, value.Known one ∧ value.Known two)
    (agree : one.AgreesWith two [function.scope] arguments) (depth : Nat) :
    ∃ m : Correspondence,
      m.Renewing one (Eval.apply depth function arguments one).2
        two (Eval.apply depth function arguments two).2 ∧
      m.Outcomes m.Objects (Eval.apply depth function arguments one).1
        (Eval.apply depth function arguments two).1 ∧
      m.Agree (Eval.apply depth function arguments one).2
        (Eval.apply depth function arguments two).2 [function.scope]
        (arguments ++ Eval.valuesOf (Eval.apply depth function arguments one).1)
        (arguments ++ Eval.valuesOf (Eval.apply depth function arguments two).1) := by
  obtain ⟨m, names, stores, kept, values, renews⟩ :=
    exists_renewal valid valid' (List.forall_mem_singleton.2 known) given agree
  have functions : m.Functions function function := by
    refine ⟨?_, ?_, kept _ (by simp)⟩
    · rw [names, List.map_id]
    · rw [names, renameAll_id]
  have calls := Correspondence.steps_apply m.keeps_stores depth
  obtain ⟨outcomes, later⟩ := calls functions values stores
  have grows := valid.call known (fun value here => (given value here).1) depth
  have all := List.rel_append values (forall₂_valuesOf outcomes)
  exact ⟨m, renews grows.2 later, outcomes, later.agree names kept all⟩

theorem rel_isSome {α β : Type} {r : α → β → Prop} {x : Option α} {y : Option β}
    (related : Option.Rel r x y) : x.isSome = y.isSome := by
  cases related <;> rfl

theorem outcomes_exhausted_iff {m : Correspondence} {first second : Except Signal Object}
    (outcomes : m.Outcomes m.Objects first second) :
    first = .error .exhausted ↔ second = .error .exhausted := by
  cases outcomes with
  | ok values => simp
  | error signals => cases signals <;> simp

/-- Evaluation depends only on what can be come by. In two stores that agree on that, it ends in
both or in neither, and at every bound on the depth of calls what it comes to is the same but for
what was made on the way, and agrees again on all that can be come by. The same goes for a call and
what can be come by from the function and what it is given. -/
theorem evaluation_sees_only_the_reachable (valid : one.Valid) (valid' : two.Valid) :
    (∀ scope node, scope < one.scopes.size → one.AgreesWith two [scope] [] →
      ((∃ depth, (Eval.node depth scope node one).1.isSome) ↔
        ∃ depth, (Eval.node depth scope node two).1.isSome) ∧
      ∀ depth, ∃ m : Correspondence,
        m.Renewing one (Eval.node depth scope node one).2 two (Eval.node depth scope node two).2 ∧
        Option.Rel m.Objects (Eval.node depth scope node one).1
          (Eval.node depth scope node two).1 ∧
        m.Agree (Eval.node depth scope node one).2 (Eval.node depth scope node two).2 [scope]
          (Eval.node depth scope node one).1.toList (Eval.node depth scope node two).1.toList) ∧
    ∀ function arguments, function.scope < one.scopes.size →
      (∀ value ∈ arguments, value.Known one ∧ value.Known two) →
      one.AgreesWith two [function.scope] arguments →
      ((∃ depth, (Eval.apply depth function arguments one).1 ≠ .error .exhausted) ↔
        ∃ depth, (Eval.apply depth function arguments two).1 ≠ .error .exhausted) ∧
      ∀ depth, ∃ m : Correspondence,
        m.Renewing one (Eval.apply depth function arguments one).2
          two (Eval.apply depth function arguments two).2 ∧
        m.Outcomes m.Objects (Eval.apply depth function arguments one).1
          (Eval.apply depth function arguments two).1 ∧
        m.Agree (Eval.apply depth function arguments one).2
          (Eval.apply depth function arguments two).2 [function.scope]
          (arguments ++ Eval.valuesOf (Eval.apply depth function arguments one).1)
          (arguments ++ Eval.valuesOf (Eval.apply depth function arguments two).1) := by
  constructor
  · intro scope node known agree
    have renews := node_renews valid valid' known agree node
    refine ⟨exists_congr ?_, renews⟩
    intro depth
    obtain ⟨m, -, results, -⟩ := renews depth
    rw [rel_isSome results]
  · intro function arguments known given agree
    have renews := call_renews valid valid' known given agree
    refine ⟨exists_congr ?_, renews⟩
    intro depth
    obtain ⟨m, -, outcomes, -⟩ := renews depth
    exact not_congr (outcomes_exhausted_iff outcomes)

/-- Two scopes, the second of which binds `x` and cannot be come by from the first. -/
def aside (value : Bool) : Store :=
  (Store.openScope (Store.openScope .empty none).2 none).2.set 1 "x" (.ofBool value)

theorem aside_valid (value : Bool) : (aside value).Valid := by
  have scopes : (Store.openScope (Store.openScope .empty none).2 none).2.Valid :=
    (Store.valid_empty.openScope fun _ lies => by cases lies).openScope fun _ lies => by cases lies
  apply scopes.set
  cases value with
  | true => exact (by decide : 1 < 3)
  | false => exact (by decide : 2 < 3)

theorem aside_agreesWith (value other : Bool) {objects : List Object}
    (plain : ∀ object ∈ objects, ∀ id, ¬object.Captures id) :
    (aside value).AgreesWith (aside other) [0] objects := by
  intro id reaches
  have first : id = 0 := by
    induction reaches with
    | scope start => exact List.mem_singleton.1 start
    | object start captures => exact absurd captures (plain _ start _)
    | step reaches found refers ih =>
      subst ih
      cases found
      cases refers with
      | outer lies => cases lies
      | bound binds captures => cases binds
  subst first
  exact .some (.refl _)

def echo : Function := ⟨["x"], [.exprStmt (.ident "x")], 0⟩

def ownName : Program :=
  [.letStmt "f" (.fn echo.parameters echo.body), .exprStmt (.call (.ident "f") [.int 1])]

theorem aside_does_not_matter :
    (aside true).Valid ∧ (aside false).Valid ∧ (aside true).AgreesWith (aside false) [0] [] ∧
      (∃ m : Correspondence,
        m.Renewing (aside true) (Eval.node 1 0 (.program ownName) (aside true)).2
          (aside false) (Eval.node 1 0 (.program ownName) (aside false)).2 ∧
        Option.Rel m.Objects (Eval.node 1 0 (.program ownName) (aside true)).1
          (Eval.node 1 0 (.program ownName) (aside false)).1) ∧
      (aside true).AgreesWith (aside false) [0] [.ofBool true] ∧
      ∃ m : Correspondence,
        m.Outcomes m.Objects (Eval.apply 1 echo [.ofBool true] (aside true)).1
          (Eval.apply 1 echo [.ofBool true] (aside false)).1 := by
  have agree := aside_agreesWith true false (List.forall_mem_nil _)
  have agreeGiven : (aside true).AgreesWith (aside false) [0] [.ofBool true] :=
    aside_agreesWith true false (List.forall_mem_singleton.2 fun id captures => by cases captures)
  have given : ∀ value ∈ [Object.ofBool true], value.Known (aside true) ∧ value.Known (aside false) :=
    List.forall_mem_singleton.2 ⟨(by decide : 1 < 3), (by decide : 1 < 3)⟩
  obtain ⟨evaluation, calls⟩ :=
    evaluation_sees_only_the_reachable (aside_valid true) (aside_valid false)
  obtain ⟨-, same⟩ := evaluation 0 (.program ownName) (by decide) agree
  obtain ⟨m, renewing, results, -⟩ := same 1
  obtain ⟨-, sameCall⟩ := calls echo [.ofBool true] (by decide) given agreeGiven
  obtain ⟨m', -, outcomes, -⟩ := sameCall 1
  exact ⟨aside_valid true, aside_valid false, agree, ⟨m, renewing, results⟩, agreeGiven,
    m', outcomes⟩

end Monkey
