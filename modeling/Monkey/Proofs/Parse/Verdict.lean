import Monkey.Proofs.Parse.Lookahead

/-!
What the result of a reader says about its tokens. Either a phrase of the grammar was read, or a
token was refused that nothing behind it could have saved, or the tokens ended too early. In the
last two cases whatever stands in front of the mistake can be completed to a phrase.
-/
namespace Monkey
open Supply

variable {α β : Type}

/-- The first mistake, whether it was recovered from or ended the step. -/
def Step.first? (step : Step (List Token) α) : Option ParseError :=
  match step.result with
  | .ok _ => step.recorded.head?
  | .error error => (step.recorded ++ [error]).head?

namespace Step

theorem first?_ok (value : α) (rest : List Token) : (ok value rest).first? = none := rfl

theorem first?_fail (error : ParseError) (rest : List Token) :
    (fail error rest : Step (List Token) α).first? = some error := rfl

theorem first?_map (f : α → β) (step : Step (List Token) α) :
    (step.map f).first? = step.first? := by
  obtain ⟨result, recorded, rest⟩ := step
  cases result <;> rfl

theorem first?_after (recorded : List ParseError) (step : Step (List Token) α) :
    (step.after recorded).first? = recorded.head?.or step.first? := by
  obtain ⟨result, late, rest⟩ := step
  cases result <;> cases recorded <;> simp [after, first?]

theorem first?_andThen {step : Step (List Token) α} {error : ParseError}
    (first : step.first? = some error)
    (next : α → List Token → Step (List Token) β) : (step.andThen next).first? = some error := by
  obtain ⟨result, recorded, rest⟩ := step
  cases result with
  | ok value =>
    change recorded.head? = some error at first
    change ((next value rest).after recorded).first? = some error
    rw [first?_after, first, Option.some_or]
  | error last => exact first

theorem of_andThen_ok {step : Step (List Token) α} {next : α → List Token → Step (List Token) β}
    {value : β} {rest : List Token} (whole : step.andThen next = .ok value rest) :
    ∃ first left, step = .ok first left ∧ next first left = .ok value rest := by
  obtain ⟨result, recorded, left⟩ := step
  cases result with
  | error error => cases whole
  | ok first =>
    change (next first left).after recorded = .ok value rest at whole
    simp only [after, ok, mk.injEq, List.append_eq_nil_iff] at whole
    obtain ⟨result, ⟨rfl, quiet⟩, same⟩ := whole
    have later : next first left = .ok value rest := by rw [ok, ← result, ← quiet, ← same]
    exact ⟨first, left, rfl, later⟩

theorem of_map_ok {step : Step (List Token) α} {f : α → β} {value : β} {rest : List Token}
    (whole : step.map f = .ok value rest) : ∃ first, step = .ok first rest ∧ f first = value := by
  rw [map_eq_andThen] at whole
  obtain ⟨first, left, step, last⟩ := of_andThen_ok whole
  cases last
  exact ⟨first, step, rfl⟩

end Step

namespace Parse
open Token (Kind)

abbrev Phrase (α : Type) := List Kind → α → Prop

def Viable (phrase : Phrase α) (kinds : List Kind) : Prop :=
  ∃ more value, phrase (kinds ++ more) value

theorem Viable.of_phrase {phrase : Phrase α} {kinds : List Kind} {value : α}
    (derived : phrase kinds value) : Viable phrase kinds :=
  ⟨[], value, by rwa [List.append_nil]⟩

/-- A phrase is read, a token is refused whatever comes behind it, or the tokens end too early. -/
inductive Verdict (phrase : Phrase α) (read : List Token → Step (List Token) α) : List Token → Prop
  | reads (used : List Token) {rest : List Token} (value : α)
      (derived : phrase (used.map Token.kind) value)
      (step : read (used ++ rest) = .ok value rest) : Verdict phrase read (used ++ rest)
  | refuses (front : List Token) {rest : List Token} {token : Token} (error : ParseError)
      (viable : Viable phrase (front.map Token.kind)) (carries : error.token? = some token)
      (first : ∀ more, (read (front ++ token :: more)).first? = some error) :
      Verdict phrase read (front ++ token :: rest)
  | lacks {tokens : List Token} {error : ParseError}
      (viable : Viable phrase (tokens.map Token.kind))
      (carries : error.token? = none) (first : (read tokens).first? = some error) :
      Verdict phrase read tokens

variable {phrase outer : Phrase α} {read : List Token → Step (List Token) α}
  {tokens rest : List Token} {token : Token}

theorem Verdict.extend {inner : Phrase β} {next : List Token → Step (List Token) β}
    (verdict : Verdict inner next rest) (front : List Token) (f : β → α)
    (step : ∀ more, more.head? = rest.head? → read (front ++ more) = (next more).map f)
    (account : ∀ {vs value}, inner vs value → outer (front.map Token.kind ++ vs) (f value)) :
    Verdict outer read (front ++ rest) := by
  -- what completes the inner phrase completes the outer one
  have carry {vs : List Token} (viable : Viable inner (vs.map Token.kind)) :
      Viable outer ((front ++ vs).map Token.kind) := by
    obtain ⟨more, value, phrase⟩ := viable
    have whole : outer (front.map Token.kind ++ (vs.map Token.kind ++ more)) (f value) :=
      account phrase
    rw [← List.append_assoc, ← List.map_append] at whole
    exact ⟨more, f value, whole⟩
  cases verdict with
  | @reads used rest value derived result =>
    rw [← List.append_assoc]
    apply Verdict.reads (front ++ used) (f value)
    · rw [List.map_append]
      exact account derived
    · rw [List.append_assoc, step _ rfl, result]
      rfl
  | @refuses inner rest token error viable carries first =>
    rw [← List.append_assoc]
    apply Verdict.refuses (front ++ inner) error (carry viable) carries
    intro more
    have head : (inner ++ token :: more).head? = (inner ++ token :: rest).head? :=
      head?_append_congr rfl
    rw [List.append_assoc, step _ head, Step.first?_map]
    exact first more
  | lacks viable carries first =>
    apply Verdict.lacks (carry viable) carries
    rw [step _ rfl, Step.first?_map]
    exact first

theorem Verdict.congr {read' : List Token → Step (List Token) α}
    (verdict : Verdict phrase read tokens) (same : ∀ tokens, read' tokens = read tokens) :
    Verdict phrase read' tokens := by
  rw [funext same]
  exact verdict

theorem Verdict.map {inner : Phrase β} {read : List Token → Step (List Token) β} (f : β → α)
    (verdict : Verdict inner read tokens)
    (account : ∀ {vs value}, inner vs value → outer vs (f value)) :
    Verdict outer (fun tokens => (read tokens).map f) tokens :=
  verdict.extend [] f (fun _ _ => rfl) account

theorem Verdict.mono (verdict : Verdict phrase read tokens)
    (account : ∀ {vs value}, phrase vs value → outer vs value) : Verdict outer read tokens :=
  (verdict.map id account).congr fun _ => (Step.map_id _).symm

theorem Verdict.after_token {next : List Token → Step (List Token) α}
    (verdict : Verdict (fun vs => phrase (token.kind :: vs)) next rest)
    (step : ∀ more, read (token :: more) = next more) : Verdict phrase read (token :: rest) :=
  verdict.extend [token] id (fun more _ => (step more).trans (Step.map_id _).symm) id

/-- Reading one thing behind another. A reader that ended well would have done so with any other
tokens behind its lookahead, so that the second verdict carries over to the whole. -/
theorem Verdict.andThen {whole : Phrase β} {next : α → List Token → Step (List Token) β}
    {pattern : Pattern}
    (verdict : Verdict phrase read tokens) (reads : Reads pattern read tokens)
    (completes : ∀ {us value}, phrase us value → Viable whole us)
    (follow : ∀ {us value rest}, rest.length ≤ tokens.length → read tokens = .ok value rest →
      phrase us value → Verdict (fun vs => whole (us ++ vs)) (next value) rest) :
    Verdict whole (fun tokens => (read tokens).andThen next) tokens := by
  have carry {kinds : List Kind} (viable : Viable phrase kinds) : Viable whole kinds := by
    obtain ⟨more, value, derived⟩ := viable
    obtain ⟨others, result, all⟩ := completes derived
    rw [List.append_assoc] at all
    exact ⟨more ++ others, result, all⟩
  cases verdict with
  | @reads used rest value derived step =>
    have second := follow (by simp) step derived
    apply second.extend used id
    · intro more head
      rw [reads.exchange step head, Step.map_id, Step.andThen_ok]
    · exact id
  | refuses front error viable carries first =>
    exact .refuses front error (carry viable) carries fun more => Step.first?_andThen (first more) _
  | lacks viable carries first =>
    exact .lacks (carry viable) carries (Step.first?_andThen first _)

theorem Verdict.choice (kind : Kind) {taken other : List Token → Step (List Token) α}
    (present : ∀ {rest}, rest.length < tokens.length →
      Verdict (fun vs => phrase (kind :: vs)) taken rest)
    (absent : Verdict phrase other tokens) :
    Verdict phrase (ifTaken kind taken other) tokens := by
  cases found : take? kind tokens with
  | none =>
    apply absent.extend [] id
    · intro more head
      rw [List.nil_append, ifTaken_of_none (take?_eq_none_congr head found), Step.map_id]
    · exact id
  | some rest =>
    obtain ⟨token, rfl, same⟩ := eq_cons_of_take? found
    have verdict := present (Nat.lt_succ_self _)
    rw [← same] at verdict
    apply verdict.after_token
    exact fun more => ifTaken_found same more

theorem Verdict.of_ok {value : α} (derived : phrase [] value)
    (tokens : List Token) : Verdict phrase (Step.ok value) tokens :=
  .reads [] value derived rfl

theorem Verdict.refused (error : ParseError) (viable : Viable phrase [])
    (carries : error.token? = some token) (step : ∀ more, read (token :: more) = .fail error more) :
    Verdict phrase read (token :: rest) := by
  apply Verdict.refuses [] error viable carries
  intro more
  rw [List.nil_append, step, Step.first?_fail]

theorem expect_judged (kind : Kind) (tokens : List Token) :
    Verdict (fun kinds _ => kinds = [kind]) (expect kind) tokens := by
  have viable : Viable (fun kinds (_ : Unit) => kinds = [kind]) [] := ⟨[kind], (), rfl⟩
  cases tokens with
  | nil => exact .lacks viable rfl rfl
  | cons token rest =>
    by_cases found : token.kind = kind
    · apply Verdict.reads [token] () (congrArg (fun kind => [kind]) found)
      simp [expect, found]
    · apply Verdict.refused (.unexpectedToken (.token kind) token) viable rfl
      intro more
      simp [expect, found]

theorem identifier_judged (tokens : List Token) :
    Verdict (fun kinds name => kinds = [.ident name]) identifier tokens := by
  have viable : Viable (fun kinds (name : String) => kinds = [.ident name]) [] :=
    ⟨[.ident ""], "", rfl⟩
  cases tokens with
  | nil => exact .lacks viable rfl rfl
  | cons token rest =>
    cases kind : token.kind
    case ident name =>
      apply Verdict.reads [token] name (congrArg (fun kind => [kind]) kind)
      simp [identifier, kind]
    all_goals
      apply Verdict.refused (.unexpectedToken .identifier token) viable rfl
      intro more
      simp [identifier, kind]

end Parse

end Monkey
