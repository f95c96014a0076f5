import Monkey.Proofs.Parse.TokenList

/-!
Counting braces. Depth is followed from the left and must never fall below zero; that is the same as
counting the braces of every prefix. Skipping over a faulty statement keeps to that count.
-/
namespace Monkey.Parse
open Supply

/-- Braces open after the tokens, `depth` being open before them. There is no answer when one is
closed that was never opened. -/
def depthAfter : Nat → List Token → Option Nat
  | depth, [] => some depth
  | depth, token :: rest =>
    match token.kind with
    | .lbrace => depthAfter (depth + 1) rest
    | .rbrace =>
      match depth with
      | 0 => none
      | inner + 1 => depthAfter inner rest
    | _ => depthAfter depth rest

def opened (tokens : List Token) : Nat := tokens.countP (·.kind = .lbrace)

def closed (tokens : List Token) : Nat := tokens.countP (·.kind = .rbrace)

/-- No prefix closes more braces than it opens, and the whole list opens as many as it closes. -/
structure Balanced (tokens : List Token) : Prop where
  prefixes : ∀ front, front <+: tokens → closed front ≤ opened front
  total : closed tokens = opened tokens

theorem depthAfter_nil (depth : Nat) : depthAfter depth [] = some depth := by cases depth <;> rfl

theorem depthAfter_lbrace {token : Token} (kind : token.kind = .lbrace) (depth : Nat)
    (rest : List Token) : depthAfter depth (token :: rest) = depthAfter (depth + 1) rest := by
  cases depth <;> simp [depthAfter, kind]

theorem depthAfter_rbrace_zero {token : Token} (kind : token.kind = .rbrace) (rest : List Token) :
    depthAfter 0 (token :: rest) = none := by
  simp [depthAfter, kind]

theorem depthAfter_rbrace_succ {token : Token} (kind : token.kind = .rbrace) (depth : Nat)
    (rest : List Token) : depthAfter (depth + 1) (token :: rest) = depthAfter depth rest := by
  simp [depthAfter, kind]

theorem depthAfter_other {token : Token} (opening : token.kind ≠ .lbrace)
    (closing : token.kind ≠ .rbrace) (depth : Nat) (rest : List Token) :
    depthAfter depth (token :: rest) = depthAfter depth rest := by
  cases depth <;> cases kind : token.kind <;> simp_all [depthAfter]

theorem depthAfter_append (depth : Nat) (front rest : List Token) :
    depthAfter depth (front ++ rest) = (depthAfter depth front).bind (depthAfter · rest) := by
  induction front generalizing depth with
  | nil => simp [depthAfter_nil]
  | cons token front ih =>
    rw [List.cons_append]
    by_cases opening : token.kind = .lbrace
    · rw [depthAfter_lbrace opening, depthAfter_lbrace opening, ih]
    · by_cases closing : token.kind = .rbrace
      · cases depth with
        | zero => rw [depthAfter_rbrace_zero closing, depthAfter_rbrace_zero closing]; rfl
        | succ depth => rw [depthAfter_rbrace_succ closing, depthAfter_rbrace_succ closing, ih]
      · rw [depthAfter_other opening closing, depthAfter_other opening closing, ih]

theorem depthAfter_append_of_some {depth inner : Nat} {front : List Token}
    (after : depthAfter depth front = some inner) (rest : List Token) :
    depthAfter depth (front ++ rest) = depthAfter inner rest := by
  rw [depthAfter_append, after]
  rfl

theorem depthAfter_add {depth inner : Nat} {tokens : List Token}
    (after : depthAfter depth tokens = some inner) (around : Nat) :
    depthAfter (depth + around) tokens = some (inner + around) := by
  induction tokens generalizing depth with
  | nil =>
    rw [depthAfter_nil, Option.some.injEq] at after
    rw [depthAfter_nil, after]
  | cons token rest ih =>
    by_cases opening : token.kind = .lbrace
    · rw [depthAfter_lbrace opening] at after ⊢
      rw [Nat.add_right_comm]
      exact ih after
    · by_cases closing : token.kind = .rbrace
      · cases depth with
        | zero => rw [depthAfter_rbrace_zero closing] at after; contradiction
        | succ depth =>
          rw [depthAfter_rbrace_succ closing] at after
          rw [Nat.add_right_comm, depthAfter_rbrace_succ closing]
          exact ih after
      · rw [depthAfter_other opening closing] at after ⊢
        exact ih after

theorem opened_cons (token : Token) (rest : List Token) :
    opened (token :: rest) = opened rest + if token.kind = .lbrace then 1 else 0 := by
  simp [opened, List.countP_cons]

theorem closed_cons (token : Token) (rest : List Token) :
    closed (token :: rest) = closed rest + if token.kind = .rbrace then 1 else 0 := by
  simp [closed, List.countP_cons]

theorem forall_prefix_cons {bound : List Token → Prop} {token : Token} {rest : List Token} :
    (∀ front, front <+: token :: rest → bound front) ↔
      bound [] ∧ ∀ front, front <+: rest → bound (token :: front) := by
  constructor
  · intro all
    exact ⟨all [] List.nil_prefix, fun front le => all _ (List.cons_prefix_cons.2 ⟨rfl, le⟩)⟩
  · rintro ⟨first, others⟩ front le
    rcases List.prefix_cons_iff.1 le with rfl | ⟨tail, rfl, inner⟩
    · exact first
    · exact others tail inner

/-- The depth followed from the left is what counting the prefixes gives. -/
theorem depthAfter_eq_some_iff {depth inner : Nat} {tokens : List Token} :
    depthAfter depth tokens = some inner ↔
      (∀ front, front <+: tokens → closed front ≤ depth + opened front) ∧
        inner + closed tokens = depth + opened tokens := by
  induction tokens generalizing depth with
  | nil =>
    rw [depthAfter_nil, Option.some.injEq]
    simp only [List.prefix_nil, forall_eq, opened, closed, List.countP_nil]
    omega
  | cons token rest ih =>
    rw [forall_prefix_cons]
    simp only [opened_cons, closed_cons]
    by_cases opening : token.kind = .lbrace
    · have closing : token.kind ≠ .rbrace := by rw [opening]; decide
      simp only [depthAfter_lbrace opening, ih, opening, reduceCtorEq, if_true, if_false]
      simp only [opened, closed, List.countP_nil]
      grind
    · by_cases closing : token.kind = .rbrace
      · cases depth with
        | zero =>
          rw [depthAfter_rbrace_zero closing]
          simp only [closing, reduceCtorEq, if_true, if_false, false_iff]
          rintro ⟨⟨-, bad⟩, -⟩
          have := bad [] List.nil_prefix
          simp [opened, closed] at this
        | succ depth =>
          simp only [depthAfter_rbrace_succ closing, ih, closing, reduceCtorEq, if_true, if_false]
          simp only [opened, closed, List.countP_nil]
          grind
      · simp only [depthAfter_other opening closing, ih, opening, closing, if_false]
        simp only [opened, closed, List.countP_nil]
        grind

theorem balanced_iff_depthAfter {tokens : List Token} :
    Balanced tokens ↔ depthAfter 0 tokens = some 0 := by
  rw [depthAfter_eq_some_iff]
  simp only [Nat.zero_add]
  exact ⟨fun balanced => ⟨balanced.prefixes, balanced.total⟩, fun ⟨all, total⟩ => ⟨all, total⟩⟩

theorem depthAfter_token (depth : Nat) (token : Token) :
    (∃ inner, depthAfter depth [token] = some inner) ∨ depth = 0 ∧ token.kind = .rbrace := by
  by_cases opening : token.kind = .lbrace
  · exact .inl ⟨depth + 1, by rw [depthAfter_lbrace opening, depthAfter_nil]⟩
  by_cases closing : token.kind = .rbrace
  · cases depth with
    | zero => exact .inr ⟨rfl, closing⟩
    | succ depth => exact .inl ⟨depth, by rw [depthAfter_rbrace_succ closing, depthAfter_nil]⟩
  · exact .inl ⟨depth, by rw [depthAfter_other opening closing, depthAfter_nil]⟩

theorem depthAfter_cons {depth inner : Nat} {token : Token}
    (after : depthAfter depth [token] = some inner) (rest : List Token) :
    depthAfter depth (token :: rest) = depthAfter inner rest := by
  rw [← List.singleton_append, depthAfter_append_of_some after]

theorem skip_stop {place : Place} {token : Token} (semicolon : token.kind = .semicolon)
    (rest : List Token) : skip place 0 (token :: rest) = rest := by
  rw [skip_eq]
  simp [semicolon]

theorem skip_in_front {token : Token} (closing : token.kind = .rbrace) (rest : List Token) :
    skip .block 0 (token :: rest) = token :: rest := by
  rw [skip_eq]
  simp [closing]

theorem skip_goesOn {place : Place} {depth inner : Nat} {token : Token}
    (after : depthAfter depth [token] = some inner)
    (goesOn : ¬ (token.kind = .semicolon ∧ depth = 0)) (rest : List Token) :
    skip place depth (token :: rest) = skip place inner rest := by
  rw [skip_eq]
  simp only [peek?_cons, advance_cons]
  by_cases opening : token.kind = .lbrace
  · rw [depthAfter_lbrace opening, depthAfter_nil, Option.some.injEq] at after
    simp only [opening, after]
  by_cases closing : token.kind = .rbrace
  · cases depth with
    | zero =>
      rw [depthAfter_rbrace_zero closing] at after
      contradiction
    | succ depth =>
      rw [depthAfter_rbrace_succ closing, depthAfter_nil, Option.some.injEq] at after
      simp only [closing, after]
  rw [depthAfter_other opening closing, depthAfter_nil, Option.some.injEq] at after
  subst after
  by_cases semicolon : token.kind = .semicolon
  · have nested : depth ≠ 0 := fun zero => goesOn ⟨semicolon, zero⟩
    simp only [semicolon, nested, if_false]
  · cases depth <;> cases kind : token.kind <;> simp_all

/-- Skipping inside a block stops behind a semicolon or in front of a brace of the block itself, or
it runs to the end. -/
theorem skip_stops (depth : Nat) (tokens : List Token) :
    ∃ passed rest, tokens = passed ++ rest ∧
      (∃ inner, depthAfter depth passed = some inner ∧ (inner = 0 ∨ rest = [])) ∧
      ∀ more, more.head? = rest.head? → skip .block depth (passed ++ more) = more := by
  induction tokens generalizing depth with
  | nil =>
    have same (more : List Token) (head : more.head? = none) : skip .block depth more = more := by
      rw [List.head?_eq_none_iff.1 head]
      exact skip_nil .block depth
    exact ⟨[], [], rfl, ⟨depth, depthAfter_nil depth, .inr rfl⟩, same⟩
  | cons token tail ih =>
    by_cases stop : token.kind = .semicolon ∧ depth = 0
    · obtain ⟨semicolon, rfl⟩ := stop
      have level : depthAfter 0 [token] = some 0 := by
        rw [depthAfter_other (by simp [semicolon]) (by simp [semicolon]), depthAfter_nil]
      exact ⟨[token], tail, rfl, ⟨0, level, .inl rfl⟩, fun more _ => skip_stop semicolon more⟩
    rcases depthAfter_token depth token with ⟨inner, after⟩ | ⟨rfl, closing⟩
    · obtain ⟨passed, rest, rfl, level, same⟩ := ih inner
      rw [← depthAfter_cons after] at level
      have further (more : List Token) (head : more.head? = rest.head?) :
          skip .block depth (token :: passed ++ more) = more := by
        rw [List.cons_append, skip_goesOn after stop, same more head]
      exact ⟨token :: passed, rest, rfl, level, further⟩
    · -- a brace that would close the block is left for the block to take
      have same (more : List Token) (head : more.head? = some token) :
          skip .block 0 more = more := by
        cases more with
        | nil => contradiction
        | cons _ more =>
          cases head
          exact skip_in_front closing more
      exact ⟨[], token :: tail, rfl, ⟨0, rfl, .inl rfl⟩, same⟩

def leftOpen (kind : Token.Kind) : Nat := if kind = .lbrace then 1 else 0

theorem depthAfter_leftOpen {token : Token} (goesOn : token.kind ≠ .rbrace) :
    depthAfter 0 [token] = some (leftOpen token.kind) := by
  by_cases opening : token.kind = .lbrace
  · rw [depthAfter_lbrace opening, depthAfter_nil, opening, leftOpen, if_pos rfl]
  · rw [depthAfter_other opening goesOn, depthAfter_nil, leftOpen, if_neg opening]

def resumption (place : Place) (kind : Token.Kind) (rest : List Token) : List Token :=
  if kind = .semicolon then rest else skip place (leftOpen kind) rest

theorem resumeInBlock_closed {error : ParseError} {token : Token}
    (carries : error.token? = some token) (closing : token.kind = .rbrace) (rest : List Token) :
    resumeInBlock error rest = .closed := by
  simp [resumeInBlock, carries, closing]

theorem resumeInBlock_continues {error : ParseError} {token : Token}
    (carries : error.token? = some token) (goesOn : token.kind ≠ .rbrace) (rest : List Token) :
    resumeInBlock error rest = .continues (resumption .block token.kind rest) := by
  simp only [resumeInBlock, carries, Option.map_some, resumption, leftOpen]
  cases kind : token.kind <;> simp_all

theorem resumeAtTop_eq {error : ParseError} {token : Token} (carries : error.token? = some token)
    (rest : List Token) : resumeAtTop error rest = resumption .top token.kind rest := by
  simp only [resumeAtTop, carries, Option.map_some, resumption, leftOpen]
  cases kind : token.kind <;> simp_all

theorem resumption_stops (kind : Token.Kind) (tokens : List Token) :
    ∃ passed rest, tokens = passed ++ rest ∧
      (∃ inner, depthAfter (leftOpen kind) passed = some inner ∧ (inner = 0 ∨ rest = [])) ∧
      ∀ more, more.head? = rest.head? → resumption .block kind (passed ++ more) = more := by
  by_cases semicolon : kind = .semicolon
  · have level : depthAfter (leftOpen kind) [] = some 0 := by
      rw [semicolon]
      rfl
    have same (more : List Token) : resumption .block kind more = more := by
      rw [resumption, if_pos semicolon]
    exact ⟨[], tokens, rfl, ⟨0, level, .inl rfl⟩, fun more _ => same more⟩
  · simp only [resumption, semicolon, if_false]
    exact skip_stops (leftOpen kind) tokens

end Monkey.Parse
