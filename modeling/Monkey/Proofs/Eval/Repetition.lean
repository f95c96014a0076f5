import Monkey.Object.Inspect
import Monkey.Proofs.Eval.Frame
import Monkey.Proofs.Eval.Noninterference

/-!
Calls can be repeated. A call changes nothing that there was before it, so a second call of the same
function with the same arguments finds all that the first one found, and comes to the same.
-/
namespace Monkey

variable {store after : Store}

theorem Correspondence.Objects.inspect_eq {m : Correspondence} (names : m.name = id)
    {value value' : Object} (values : m.Objects value value') : value.inspect = value'.inspect := by
  induction values with
  | integer ids value => rfl
  | boolean ids value => cases value <;> rfl
  | string ids text => rfl
  | null ids => rfl
  | returnValue ids _ ih => exact ih
  | error ids cause =>
    rw [names, EvalError.rename_id]
    rfl
  | function ids functions =>
    obtain ⟨parameters, body, -⟩ := functions
    rw [names, List.map_id] at parameters
    rw [names, renameAll_id] at body
    show Function.inspect _ = Function.inspect _
    rw [Function.inspect, Function.inspect, parameters, body]

/-- A store agrees with any other in which all its scopes are what they were. -/
theorem Store.Valid.agreesWith (valid : store.Valid) (kept : store.KeptIn after)
    {scopes : List ScopeId} {objects : List Object}
    (known : ∀ id ∈ scopes, id < store.scopes.size)
    (given : ∀ value ∈ objects, value.Known store) : store.AgreesWith after scopes objects := by
  intro id reaches
  rw [kept id (valid.lt_of_reaches known given reaches)]
  cases store.scopes[id]? with
  | none => exact .none
  | some here => exact .some (.refl here)

theorem Eval.apply_ne_returned (depth : Nat) (function : Function) (arguments : List Object)
    (store : Store) (value : Object) :
    (Eval.apply depth function arguments store).1 ≠ .error (.returned value) := by
  cases depth with
  | zero => exact fun same => by cases same
  | succ depth =>
    rw [Eval.apply_succ]
    split
    · exact fun same => by cases same
    · exact Eval.catchReturn_ne_returned _ _ _

/-- A call that ended ends again in the store that it left. Both fail with the same error, or give
values that are the same but for what either call made, and that show the same. -/
theorem call_is_repeatable {depth : Nat} {function : Function} {arguments : List Object}
    {outcome : Except Signal Object} (valid : store.Valid)
    (made : function.scope < store.scopes.size)
    (given : ∀ argument ∈ arguments, argument.Known store)
    (ends : Eval.apply depth function arguments store = (outcome, after))
    (terminates : outcome ≠ .error .exhausted) :
    ∃ again last, ∃ m : Correspondence,
      Eval.apply depth function arguments after = (again, last) ∧
      m.Renewing store after after last ∧
      m.Agree after last [function.scope] (arguments ++ Eval.valuesOf outcome)
        (arguments ++ Eval.valuesOf again) ∧
      ((∃ cause, outcome = .error (.failed cause) ∧ again = .error (.failed cause)) ∨
        ∃ value value', outcome = .ok value ∧ again = .ok value' ∧ m.Objects value value' ∧
          value.type = value'.type ∧ value.inspect = value'.inspect ∧
          value.isTruthy = value'.isTruthy) := by
  have kept := Eval.keptIn_apply depth function arguments store
  have notReturned := Eval.apply_ne_returned depth function arguments store
  obtain ⟨valid', grows⟩ := valid.call made given depth
  rw [ends] at kept notReturned valid' grows
  have known : ∀ id ∈ [function.scope], id < store.scopes.size := by simpa using made
  -- the call wrote to new scopes only, so its store and the one before agree on all it can see
  obtain ⟨m, renewing, outcomes, agree⟩ := call_renews valid valid' made
    (fun argument here => ⟨given argument here, (given argument here).later grows⟩)
    (valid.agreesWith kept known given) depth
  rw [ends] at renewing outcomes agree
  refine ⟨_, _, m, rfl, renewing, agree, ?_⟩
  generalize (Eval.apply depth function arguments after).1 = again at outcomes
  cases outcomes with
  | ok values =>
    exact .inr ⟨_, _, rfl, rfl, values, values.type_eq, values.inspect_eq renewing.name,
      values.isTruthy_eq⟩
  | error signals =>
    cases signals with
    | returned values => exact absurd rfl (notReturned _)
    | failed cause =>
      rw [renewing.name, EvalError.rename_id]
      exact .inl ⟨cause, rfl, rfl⟩
    | exhausted => exact absurd rfl terminates

/-- The function `fn(x) { fn() { x }; }`, made in scope 0. -/
def maker : Function := ⟨["x"], [.exprStmt (.fn [] [.exprStmt (.ident "x")])], 0⟩

theorem maker_makes_again :
    (Eval.apply 1 maker [.ofBool true] .initial).1 =
        .ok (.function 3 ⟨[], [.exprStmt (.ident "x")], 1⟩) ∧
      ∃ again last, ∃ m : Correspondence,
        Eval.apply 1 maker [.ofBool true] (Eval.apply 1 maker [.ofBool true] .initial).2 =
          (.ok again, last) ∧
        m.Objects (.function 3 ⟨[], [.exprStmt (.ident "x")], 1⟩) again ∧
        again.inspect = "fn() \x7bx;\x7d" := by
  have valid : Store.initial.Valid := Store.valid_empty.openScope nofun
  have known : ∀ argument ∈ [Object.ofBool true], argument.Known .initial :=
    List.forall_mem_singleton.2 (by decide : 1 < 3)
  have ends : Eval.apply 1 maker [.ofBool true] .initial =
      (.ok (.function 3 ⟨[], [.exprStmt (.ident "x")], 1⟩),
        (Eval.apply 1 maker [.ofBool true] .initial).2) := rfl
  obtain ⟨again, last, m, runs, -, -, shown⟩ :=
    call_is_repeatable valid (by decide) known ends (by simp)
  rcases shown with ⟨cause, fails, -⟩ | ⟨value, value', same, rfl, values, -, inspect, -⟩
  · cases fails
  · cases same
    exact ⟨rfl, value', last, m, runs, values, inspect.symm.trans (by decide)⟩

end Monkey
