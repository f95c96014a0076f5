import Monkey.Proofs.Eval.Correspondence
import Monkey.Proofs.Scope.Reach
import Mathlib.Data.List.Forall2

/-!
Corresponding stores agree on all that can be come by. From corresponding places one comes by
corresponding scopes, whichever side one looks from.
-/
namespace Monkey.Correspondence

/-- What can be come by on one side has a counterpart that can be come by on the other side and
answers alike. -/
structure Agree (m : Correspondence) (s t : Store) (scopes : List ScopeId)
    (objects objects' : List Object) : Prop where
  forth : ∀ {i}, s.Reaches scopes objects i → ∃ j, m.scope i j ∧ t.Reaches scopes objects' j ∧
    Option.Rel m.Scopes s.scopes[i]? t.scopes[j]?
  back : ∀ {j}, t.Reaches scopes objects' j → ∃ i, m.scope i j ∧ s.Reaches scopes objects i ∧
    Option.Rel m.Scopes s.scopes[i]? t.scopes[j]?

/-- The correspondence seen from the other side, for names that stand for themselves. -/
def converse (m : Correspondence) : Correspondence where
  name := m.name
  scope i j := m.scope j i
  object i j := m.object j i
  name_injective := m.name_injective
  scope_order first second := (m.scope_order first second).symm
  object_unique first second := (m.object_unique first second).symm
  constant := m.constant

variable {m : Correspondence}

theorem rel_converse {α β : Type} {r : α → β → Prop} {r' : β → α → Prop}
    (turn : ∀ {x y}, r x y → r' y x) {x : Option α} {y : Option β} (related : Option.Rel r x y) :
    Option.Rel r' y x := by
  cases related with
  | none => exact .none
  | some pair => exact .some (turn pair)

section Converse

variable (names : m.name = id)
include names

theorem Objects.converse {v w : Object} (values : m.Objects v w) : m.converse.Objects w v := by
  induction values with
  | integer ids value => exact .integer (m := m.converse) ids value
  | boolean ids value => exact .boolean (m := m.converse) ids value
  | string ids text => exact .string (m := m.converse) ids text
  | null ids => exact .null ids
  | returnValue ids _ ih => exact .returnValue ids ih
  | error ids cause =>
    have plain : cause.rename m.name = cause := by rw [names, EvalError.rename_id]
    have pair := Objects.error (m := m.converse) ids (cause.rename m.name)
    rw [show m.converse.name = m.name from rfl, plain, plain] at pair
    rwa [plain]
  | function ids functions =>
    obtain ⟨parameters, body, scopes⟩ := functions
    rw [names] at parameters body
    rw [List.map_id] at parameters
    rw [renameAll_id] at body
    refine .function ids ⟨?_, ?_, scopes⟩
    · rw [parameters, show m.converse.name = id from names, List.map_id]
    · rw [body, show m.converse.name = id from names, renameAll_id]

theorem Scopes.converse {a b : Scope} (alike : m.Scopes a b) : m.converse.Scopes b a where
  outer := rel_converse (fun pair => pair) alike.outer
  find name := by
    have found := rel_converse (Objects.converse names) (alike.find name)
    have plain : m.name name = name := congrFun names name
    rw [plain] at found
    rwa [show m.converse.name name = name from plain]

theorem Stores.converse {s t : Store} (stores : m.Stores s t) : m.converse.Stores t s where
  scopes pair := rel_converse (Scopes.converse names) (stores.scopes pair)
  next_scope := stores.next_scope
  next_object := stores.next_object

end Converse

theorem Objects.captures {v w : Object} (values : m.Objects v w) {i : ScopeId}
    (captures : v.Captures i) : ∃ j, m.scope i j ∧ w.Captures j := by
  induction captures generalizing w with
  | function id f =>
    cases values with
    | function ids functions => exact ⟨_, functions.scope, .function _ _⟩
  | returnValue id captures ih =>
    cases values with
    | returnValue ids inner =>
      obtain ⟨j, pair, captures'⟩ := ih inner
      exact ⟨j, pair, .returnValue _ captures'⟩

theorem Scopes.refers {a b : Scope} (alike : m.Scopes a b) {i : ScopeId} (refers : a.Refers i) :
    ∃ j, m.scope i j ∧ b.Refers j := by
  cases refers with
  | outer lies =>
    have around := alike.outer
    generalize lies' : b.outer = outer' at around
    rw [lies] at around
    cases around with
    | some pair => exact ⟨_, pair, .outer lies'⟩
  | @bound name value _ binds captures =>
    have found := alike.find name
    generalize binds' : b.find? (m.name name) = bound' at found
    rw [binds] at found
    cases found with
    | some values =>
      obtain ⟨j, pair, captures'⟩ := values.captures captures
      exact ⟨j, pair, .bound binds' captures'⟩

theorem exists_counterpart {objects objects' : List Object} {v : Object}
    (values : List.Forall₂ m.Objects objects objects') (member : v ∈ objects) :
    ∃ w ∈ objects', m.Objects v w := by
  induction values with
  | nil => cases member
  | cons first _ ih =>
    rcases List.mem_cons.1 member with rfl | later
    · exact ⟨_, List.mem_cons_self, first⟩
    · obtain ⟨w, here, pair⟩ := ih later
      exact ⟨w, List.mem_cons_of_mem _ here, pair⟩

theorem Stores.reaches {s t : Store} (stores : m.Stores s t) {scopes : List ScopeId}
    (kept : ∀ id ∈ scopes, m.scope id id) {objects objects' : List Object}
    (values : List.Forall₂ m.Objects objects objects') {i : ScopeId}
    (reaches : s.Reaches scopes objects i) : ∃ j, m.scope i j ∧ t.Reaches scopes objects' j := by
  induction reaches with
  | scope start => exact ⟨_, kept _ start, .scope start⟩
  | object start captures =>
    obtain ⟨w, start', pair⟩ := exists_counterpart values start
    obtain ⟨j, pair, captures'⟩ := pair.captures captures
    exact ⟨j, pair, .object start' captures'⟩
  | step reaches found refers ih =>
    obtain ⟨j, pair, reaches'⟩ := ih
    have cells := stores.scopes pair
    generalize found' : t.scopes[j]? = cell at cells
    rw [found] at cells
    cases cells with
    | some alike =>
      obtain ⟨p, pair, refers'⟩ := alike.refers refers
      exact ⟨p, pair, .step reaches' found' refers'⟩

theorem Stores.agree {s t : Store} (stores : m.Stores s t) (names : m.name = id)
    {scopes : List ScopeId} (kept : ∀ id ∈ scopes, m.scope id id) {objects objects' : List Object}
    (values : List.Forall₂ m.Objects objects objects') : m.Agree s t scopes objects objects' := by
  constructor
  · intro i reaches
    obtain ⟨j, pair, reaches'⟩ := stores.reaches kept values reaches
    exact ⟨j, pair, reaches', stores.scopes pair⟩
  · intro j reaches
    have values' : List.Forall₂ m.converse.Objects objects' objects :=
      (values.imp fun _ _ => Objects.converse names).flip
    obtain ⟨i, pair, reaches'⟩ := (stores.converse names).reaches kept values' reaches
    exact ⟨i, pair, reaches', stores.scopes pair⟩

end Monkey.Correspondence
