import Mathlib.Data.List.Forall2
import Monkey.Proofs.Eval.Interchange
import Monkey.Proofs.Eval.Linked

/-!
Histories of environments. Handles are got on new scopes, inside others and not, and more than one
may be for the same scope. Names are bound through them, and nodes evaluated. Whatever was done, no
scope lies inside itself. And if nothing was evaluated, what a handle answers can be read off from
what was done: the latest binding of the name in the nearest scope in which it was ever bound.
-/
namespace Monkey

/-- What is done with environments. Handles are numbered in the order in which they were got. -/
inductive Operation
  | new
  | enclosed (outer : Nat)
  | clone (handle : Nat)
  | set (handle : Nat) (name : String) (value : Object)
  | takeOut (scope : ScopeId)
  | evaluate (handle depth : Nat) (node : Node)

/-- The operation is one of environments alone, and nothing to do with functions. -/
inductive Operation.Plain : Operation → Prop
  | new : Plain .new
  | enclosed (outer : Nat) : Plain (.enclosed outer)
  | clone (handle : Nat) : Plain (.clone handle)
  | set (handle : Nat) (name : String) (value : Object) : Plain (.set handle name value)

/-- The store and, for each handle, the scope that it is for. -/
structure Environments where
  store : Store
  handles : List ScopeId

/-- A value can be bound if the scopes that it brings along exist, and what is evaluated comes to an
end. -/
inductive Performs (state : Environments) : Operation → Environments → Prop
  | new : Performs state .new
      ⟨(state.store.openScope none).2, state.handles ++ [state.store.scopes.size]⟩
  | enclosed {outer : Nat} {scope : ScopeId} (known : state.handles[outer]? = some scope) :
    Performs state (.enclosed outer)
      ⟨(state.store.openScope (some scope)).2, state.handles ++ [state.store.scopes.size]⟩
  | clone {handle : Nat} {scope : ScopeId} (known : state.handles[handle]? = some scope) :
    Performs state (.clone handle) ⟨state.store, state.handles ++ [scope]⟩
  | set {handle : Nat} {scope : ScopeId} (known : state.handles[handle]? = some scope)
    (name : String) {value : Object} (fits : value.FitsIn state.store) :
    Performs state (.set handle name value) ⟨state.store.set scope name value, state.handles⟩
  | takeOut {scope : ScopeId} (there : scope < state.store.scopes.size) :
    Performs state (.takeOut scope) ⟨state.store, state.handles ++ [scope]⟩
  | evaluate {handle : Nat} {scope : ScopeId} (known : state.handles[handle]? = some scope)
    {depth : Nat} {node : Node} {value : Object} {later : Store}
    (gives : Eval.node depth scope node state.store = (some value, later)) :
    Performs state (.evaluate handle depth node) ⟨later, state.handles⟩

/-- The operations, the latest one first, lead to the state. -/
inductive History : List Operation → Environments → Prop
  | start : History [] ⟨.empty, []⟩
  | step {operations : List Operation} {operation : Operation} {before after : Environments}
    (history : History operations before) (performs : Performs before operation after) :
    History (operation :: operations) after

section Sound

structure Environments.Sound (state : Environments) : Prop where
  linked : state.store.Linked
  handles : ∀ scope ∈ state.handles, scope < state.store.scopes.size

variable {operations : List Operation} {operation : Operation} {state before after : Environments}

theorem Environments.Sound.known (sound : state.Sound) {handle : Nat} {scope : ScopeId}
    (known : state.handles[handle]? = some scope) : scope < state.store.scopes.size :=
  sound.handles scope (List.mem_of_getElem? known)

theorem Environments.Sound.cloned (sound : state.Sound) {scope : ScopeId}
    (there : scope < state.store.scopes.size) : Sound ⟨state.store, state.handles ++ [scope]⟩ where
  linked := sound.linked
  handles := List.forall_mem_append.2 ⟨sound.handles, List.forall_mem_singleton.2 there⟩

theorem Environments.Sound.opened (sound : state.Sound) {outer : Option ScopeId}
    (there : ∀ around, outer = some around → around < state.store.scopes.size) :
    Sound ⟨(state.store.openScope outer).2, state.handles ++ [state.store.scopes.size]⟩ where
  linked := sound.linked.openScope there
  handles := by
    rw [Store.size_openScope]
    refine List.forall_mem_append.2 ⟨?_, List.forall_mem_singleton.2 (Nat.lt_succ_self _)⟩
    intro scope member
    exact Nat.lt_succ_of_lt (sound.handles scope member)

theorem Performs.sound (performs : Performs before operation after) (sound : before.Sound) :
    after.Sound := by
  cases performs with
  | new => exact sound.opened fun around same => by cases same
  | enclosed known =>
    apply sound.opened
    rintro around same
    cases same
    exact sound.known known
  | clone known => exact sound.cloned (sound.known known)
  | set known name fits =>
    refine ⟨sound.linked.set fits _ name, ?_⟩
    rw [Store.size_set]
    exact sound.handles
  | takeOut there => exact sound.cloned there
  | @evaluate handle scope known depth node value later gives =>
    obtain ⟨holds, grows⟩ :=
      Discipline.linked.kept_node depth scope node ⟨sound.linked, sound.known known⟩
    rw [gives] at holds grows
    exact ⟨holds.1, fun id member => Nat.lt_of_lt_of_le (sound.handles id member) grows⟩

theorem History.sound (history : History operations state) : state.Sound := by
  induction history with
  | start => exact ⟨Store.linked_empty, by simp⟩
  | step _ performs ih => exact performs.sound ih

end Sound

section Exchange

structure Environments.Alike (one other : Environments) : Prop where
  handles : one.handles = other.handles
  stores : one.store.Interchangeable other.store

variable {operation : Operation} {one other after : Environments}

theorem Performs.parallel (performs : Performs one operation after) (alike : one.Alike other) :
    ∃ after', Performs other operation after' ∧ after.Alike after' := by
  have handles := alike.handles
  have size := alike.stores.size_eq
  cases performs with
  | new => exact ⟨_, .new, by rw [handles, size], alike.stores.openScope _⟩
  | enclosed known =>
    exact ⟨_, .enclosed (handles ▸ known), by rw [handles, size], alike.stores.openScope _⟩
  | clone known => exact ⟨_, .clone (handles ▸ known), by rw [handles], alike.stores⟩
  | set known name fits =>
    exact ⟨_, .set (handles ▸ known) name (fits.later (Nat.le_of_eq size)), handles,
      alike.stores.set _ name _⟩
  | takeOut there => exact ⟨_, .takeOut (size ▸ there), by rw [handles], alike.stores⟩
  | @evaluate handle scope known depth node value later gives =>
    obtain ⟨same, stores⟩ := alike.stores.node depth scope node
    rw [gives] at same stores
    exact ⟨⟨(Eval.node depth scope node other.store).2, other.handles⟩,
      .evaluate (handles ▸ known) (Prod.ext same.symm rfl), handles, stores⟩

theorem Performs.keeps_handle {before : Environments} (performs : Performs before operation after)
    {handle : Nat} {scope : ScopeId} (known : before.handles[handle]? = some scope) :
    after.handles[handle]? = some scope := by
  have appended (more : List ScopeId) : (before.handles ++ more)[handle]? = some scope := by
    rw [List.getElem?_append_left (List.getElem?_eq_some_iff.1 known).1, known]
  cases performs with
  | new | enclosed | clone | takeOut => exact appended _
  | set | evaluate => exact known

section

variable {handle handle' : Nat} {name name' : String} {value value' : Object}

/-- Two bindings that are made one after the other, of different names or in different scopes, may
trade places. -/
theorem Performs.exchange {before middle : Environments}
    (first : Performs before (.set handle' name' value') middle)
    (second : Performs middle (.set handle name value) after)
    (apart : ∀ scope, after.handles[handle]? = some scope → after.handles[handle']? = some scope →
      name ≠ name') :
    ∃ middle' after', Performs before (.set handle name value) middle' ∧
      Performs middle' (.set handle' name' value') after' ∧ after.Alike after' := by
  cases first with
  | @set _ scope' known' _ _ fits' =>
    cases second with
    | @set _ scope known _ _ fits =>
      have known : before.handles[handle]? = some scope := known
      have fitsBefore : value.FitsIn before.store :=
        fits.later (Nat.le_of_eq (before.store.size_set scope' name' value'))
      have fitsAfter : value'.FitsIn (before.store.set scope name value) :=
        fits'.later (Nat.le_of_eq (before.store.size_set scope name value).symm)
      let middle' : Environments := ⟨before.store.set scope name value, before.handles⟩
      have there : middle'.handles[handle']? = some scope' := known'
      have second := Performs.set there name' fitsAfter
      refine ⟨middle', _, .set known name fitsBefore, second, rfl, ?_⟩
      apply Store.set_comm
      rintro rfl
      exact (apart _ known known').symm

theorem History.exchange {later earlier : List Operation} {state : Environments}
    (history :
      History (later ++ .set handle name value :: .set handle' name' value' :: earlier) state)
    (apart : ∀ scope, state.handles[handle]? = some scope → state.handles[handle']? = some scope →
      name ≠ name') :
    ∃ swapped,
      History (later ++ .set handle' name' value' :: .set handle name value :: earlier) swapped ∧
      state.Alike swapped := by
  induction later generalizing state with
  | nil =>
    cases history with
    | step history second =>
      cases history with
      | step history first =>
        obtain ⟨_, swapped, first', second', alike⟩ := first.exchange second apart
        exact ⟨swapped, .step (.step history first') second', alike⟩
  | cons operation later ih =>
    cases history with
    | step history performs =>
      -- handles are never taken away, so what was apart in the end was apart before
      obtain ⟨swapped, history', alike⟩ := ih history fun scope known known' =>
        apart scope (performs.keeps_handle known) (performs.keeps_handle known')
      obtain ⟨after', performs', alike'⟩ := performs.parallel alike
      exact ⟨after', .step history' performs', alike'⟩

end

end Exchange

section Plain

def History.opened : List Operation → Nat
  | [] => 0
  | .new :: earlier => opened earlier + 1
  | .enclosed _ :: earlier => opened earlier + 1
  | _ :: earlier => opened earlier

/-- For each handle the scope that it is for and those around that scope, from the inside out.
Scopes are numbered in the order in which they were opened. -/
def History.chains : List Operation → List (List ScopeId)
  | [] => []
  | .new :: earlier => chains earlier ++ [[opened earlier]]
  | .enclosed outer :: earlier =>
    chains earlier ++ [opened earlier :: (chains earlier)[outer]?.getD []]
  | .clone handle :: earlier => chains earlier ++ [(chains earlier)[handle]?.getD []]
  | _ :: earlier => chains earlier

structure Assignment where
  scope : ScopeId
  name : String
  value : Object

/-- What was bound through any handle for the scope in question, the latest first. -/
def History.assignments : List Operation → List Assignment
  | [] => []
  | .set handle name value :: earlier =>
    match (chains earlier)[handle]? with
    | some (scope :: _) => ⟨scope, name, value⟩ :: assignments earlier
    | _ => assignments earlier
  | _ :: earlier => assignments earlier

def History.latest (made : List Assignment) (scope : ScopeId) (name : String) : Option Object :=
  (made.find? fun one => one.scope = scope ∧ one.name = name).map (·.value)

structure Environments.Follows (state : Environments) (operations : List Operation) : Prop where
  size : state.store.scopes.size = History.opened operations
  chains : List.Forall₂ state.store.Chain state.handles (History.chains operations)
  bound : ∀ (scope : ScopeId) (name : String),
    state.store.scopes[scope]?.bind (·.find? name) =
      History.latest (History.assignments operations) scope name

theorem History.latest_cons (one : Assignment) (made : List Assignment) (scope : ScopeId)
    (name : String) :
    latest (one :: made) scope name =
      if one.scope = scope ∧ one.name = name then some one.value else latest made scope name := by
  unfold latest
  rw [List.find?_cons]
  by_cases same : one.scope = scope ∧ one.name = name
  · simp [same]
  · simp [same]

theorem exists_of_forall₂ {α β : Type} {R : α → β → Prop} {as : List α} {bs : List β}
    (related : List.Forall₂ R as bs) {i : Nat} {a : α} (found : as[i]? = some a) :
    ∃ b, bs[i]? = some b ∧ R a b := by
  induction related generalizing i with
  | nil => contradiction
  | cons first _ ih =>
    cases i with
    | zero =>
      cases found
      exact ⟨_, rfl, first⟩
    | succ i => exact ih found

variable {operations : List Operation} {operation : Operation} {state before after : Environments}

theorem Performs.follows (performs : Performs before operation after) (plain : operation.Plain)
    (sound : before.Sound) (follows : before.Follows operations) :
    after.Follows (operation :: operations) := by
  obtain ⟨size, related, bound⟩ := follows
  cases performs with
  | new =>
    refine ⟨?_, ?_, ?_⟩
    · rw [Store.size_openScope, size, History.opened]
    · rw [History.chains, ← size]
      refine List.rel_append (related.imp fun _ _ holds => holds.openScope none) (.cons ?_ .nil)
      exact .outermost (by rw [Store.scopes_openScope, if_pos rfl]) rfl
    · intro scope name
      rw [Store.bind_find?_openScope, bound]
      rfl
  | @enclosed outer scope known =>
    obtain ⟨chain, found, holds⟩ := exists_of_forall₂ related known
    refine ⟨?_, ?_, ?_⟩
    · rw [Store.size_openScope, size, History.opened]
    · rw [History.chains, ← size, found, Option.getD_some]
      exact List.rel_append (related.imp fun _ _ holds => holds.openScope _)
        (.cons holds.opened .nil)
    · intro scope name
      rw [Store.bind_find?_openScope, bound]
      rfl
  | @clone handle scope known =>
    obtain ⟨chain, found, holds⟩ := exists_of_forall₂ related known
    refine ⟨size, ?_, bound⟩
    rw [History.chains, found, Option.getD_some]
    exact List.rel_append related (.cons holds .nil)
  | @set handle scope known name value fits =>
    obtain ⟨chain, found, holds⟩ := exists_of_forall₂ related known
    refine ⟨?_, related.imp fun _ _ holds => holds.set scope name value, ?_⟩
    · rw [Store.size_set, size]
      rfl
    · intro other key
      obtain ⟨around, rfl⟩ := holds.eq_cons
      rw [Store.bind_find?_set (sound.known known), bound, History.assignments, found,
        History.latest_cons]
  | takeOut | evaluate => contradiction

theorem History.follows (history : History operations state)
    (plain : ∀ operation ∈ operations, operation.Plain) : state.Follows operations := by
  induction history with
  | start => exact ⟨rfl, .nil, fun scope name => by simp [Store.empty, latest, assignments]⟩
  | step history performs ih =>
    obtain ⟨last, others⟩ := List.forall_mem_cons.1 plain
    exact performs.follows last history.sound (ih others)

/-- A handle answers with the latest binding of the name in the first scope of its chain that has
one. -/
theorem History.get?_eq (history : History operations state)
    (plain : ∀ operation ∈ operations, operation.Plain) {handle : Nat} {scope : ScopeId}
    (known : state.handles[handle]? = some scope) :
    ∃ around, (chains operations)[handle]? = some (scope :: around) ∧ ∀ name,
      state.store.get? scope name =
        (scope :: around).findSome? (latest (assignments operations) · name) := by
  have follows := history.follows plain
  obtain ⟨chain, found, holds⟩ := exists_of_forall₂ follows.chains known
  obtain ⟨around, rfl⟩ := holds.eq_cons
  refine ⟨around, found, ?_⟩
  intro name
  rw [holds.get?_eq history.sound.linked.nested]
  simp only [follows.bound]

theorem History.findSome?_latest {made newer older : List Assignment} {front around : List ScopeId}
    {target : ScopeId} {name : String} {value : Object}
    (splits : made = newer ++ ⟨target, name, value⟩ :: older)
    (last : ∀ one ∈ newer, one.scope = target → one.name ≠ name)
    (notShadowed : ∀ one ∈ made, one.scope ∈ front → one.name ≠ name) :
    (front ++ target :: around).findSome? (latest made · name) = some value := by
  -- nothing in front has an answer, and here the newer assignments are passed over
  have inFront : front.findSome? (latest made · name) = none := by
    rw [List.findSome?_eq_none_iff]
    intro scope member
    rw [latest, Option.map_eq_none_iff, List.find?_eq_none]
    simp only [decide_eq_true_eq, not_and]
    rintro one made rfl
    exact notShadowed one made member
  have here : latest made target name = some value := by
    have passed : newer.find? (fun one => one.scope = target ∧ one.name = name) = none := by
      rw [List.find?_eq_none]
      simpa using last
    rw [splits, latest, List.find?_append, passed]
    simp
  rw [List.findSome?_append, inFront, Option.none_or, List.findSome?_cons, here]

end Plain

/-- Whatever is done with environments, and whatever is evaluated in them, no scope lies inside
itself, so looking a name up and showing a scope come to an end for every handle. Bindings of
different names or in different scopes that are made one after the other may be made in the other
order as well: all later operations can be performed, and all answers are the same. If nothing is
evaluated, a handle answers with what was bound last, through any handle, in the nearest scope of
its chain in which the name was ever bound, and does not answer if there is none. So a binding is
seen through all handles for its scope and for scopes inside it, unless the name is bound again
there or in a scope between. -/
theorem environments_are_nested_scopes {operations : List Operation} {state : Environments}
    (history : History operations state) :
    (∀ scope, ¬ Relation.TransGen state.store.LiesIn scope scope) ∧
    (∀ scope ∈ state.handles,
      (∀ name, state.store.Gets name scope (state.store.get? scope name)) ∧
        state.store.Shows scope (state.store.dump scope)) ∧
    (∀ later earlier (handle handle' : Nat) name name' value value',
      operations = later ++ .set handle name value :: .set handle' name' value' :: earlier →
      (∀ scope, state.handles[handle]? = some scope → state.handles[handle']? = some scope →
        name ≠ name') →
      ∃ swapped,
        History (later ++ .set handle' name' value' :: .set handle name value :: earlier) swapped ∧
        swapped.handles = state.handles ∧
        ∀ scope key, swapped.store.get? scope key = state.store.get? scope key) ∧
    ((∀ operation ∈ operations, operation.Plain) →
      ∀ (handle : Nat) scope, state.handles[handle]? = some scope →
        ∃ around, (History.chains operations)[handle]? = some (scope :: around) ∧
          (∀ name, state.store.get? scope name =
            (scope :: around).findSome? (History.latest (History.assignments operations) · name)) ∧
          ∀ front target outer newer older name value,
            scope :: around = front ++ target :: outer →
            History.assignments operations = newer ++ ⟨target, name, value⟩ :: older →
            (∀ one ∈ newer, one.scope = target → one.name ≠ name) →
            (∀ one ∈ History.assignments operations, one.scope ∈ front → one.name ≠ name) →
            state.store.get? scope name = some value) := by
  have sound := history.sound
  have nested : state.store.Nested := sound.linked.nested
  refine ⟨nested.acyclic, ?_, ?_, ?_⟩
  · intro scope member
    have there := sound.handles scope member
    exact ⟨nested.gets there, nested.shows there⟩
  · rintro later earlier handle handle' name name' value value' rfl apart
    obtain ⟨swapped, history', alike⟩ := history.exchange apart
    exact ⟨swapped, history', alike.handles.symm,
      fun scope key => (alike.stores.get?_eq scope key).symm⟩
  · intro plain handle scope known
    obtain ⟨around, found, answers⟩ := history.get?_eq plain known
    refine ⟨around, found, answers, ?_⟩
    intro front target outer newer older name value chain splits last notShadowed
    rw [answers, chain]
    exact History.findSome?_latest splits last notShadowed

/-- A scope is opened inside another, and then `x` is bound through a second handle for the outer
one. -/
def lateBinding : List Operation := [.set 2 "x" (.ofBool true), .clone 0, .enclosed 0, .new]

theorem lateBinding_is_seen_inside :
    ∃ state, History lateBinding state ∧ state.handles = [0, 1, 0] ∧
      state.store.get? 1 "x" = some (.ofBool true) := by
  have fits (store : Store) : (Object.ofBool true).FitsIn store := by
    intro scope captures
    cases captures
  have outside : History [.new] ⟨⟨#[⟨[], none⟩], 3⟩, [0]⟩ := .step .start .new
  have inside : History [.enclosed 0, .new] ⟨⟨#[⟨[], none⟩, ⟨[], some 0⟩], 3⟩, [0, 1]⟩ :=
    .step outside (.enclosed rfl)
  have again : History [.clone 0, .enclosed 0, .new]
      ⟨⟨#[⟨[], none⟩, ⟨[], some 0⟩], 3⟩, [0, 1, 0]⟩ := .step inside (.clone rfl)
  have bound : History lateBinding
      ⟨Store.set ⟨#[⟨[], none⟩, ⟨[], some 0⟩], 3⟩ 0 "x" (.ofBool true), [0, 1, 0]⟩ :=
    .step again (.set rfl "x" (fits _))
  have plain : ∀ operation ∈ lateBinding, operation.Plain := by
    simp [lateBinding, Operation.Plain.new, Operation.Plain.enclosed, Operation.Plain.clone,
      Operation.Plain.set]
  obtain ⟨around, chain, -, seen⟩ := (environments_are_nested_scopes bound).2.2.2 plain 1 1 rfl
  obtain rfl : around = [0] := by cases chain; rfl
  refine ⟨_, bound, rfl, seen [1] 0 [] [] [] "x" _ rfl rfl (by simp) ?_⟩
  intro one member inFront
  obtain rfl := List.mem_singleton.1 member
  exact absurd (List.mem_singleton.1 inFront) (by decide)

end Monkey
