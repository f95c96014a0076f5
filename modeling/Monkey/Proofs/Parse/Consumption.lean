import Monkey.Proofs.Parse.Braces
import Monkey.Proofs.Parse.FirstToken

/-!
How readers use up tokens. A reader depends on the tokens that it uses and on the one after them,
and on nothing behind that. What it uses follows a pattern that braces, mistakes and recovery fix
between them; the pattern is the relation `Uses`, and `UsesInside` for the inside of a block.
-/
namespace Monkey.Parse

variable {α β : Type}

def Plain (kind : Token.Kind) : Prop := kind ≠ .lbrace ∧ kind ≠ .rbrace ∧ kind ≠ .semicolon

instance (kind : Token.Kind) : Decidable (Plain kind) := inferInstanceAs (Decidable (_ ∧ _ ∧ _))

mutual

/-- Tokens used up by a reader that ended in the given error, if in any, and recorded the given
mistakes on the way. -/
inductive Uses : Option ParseError → List ParseError → List Token → Prop
  | nothing : Uses none [] []
  | token {token : Token} (plain : Plain token.kind) : Uses none [] [token]
  | fault {error : ParseError} {token : Token} (carries : error.token? = some token) :
      Uses (some error) [] [token]
  | ended {error : ParseError} (carries : error.token? = none) : Uses (some error) [] []
  | sequence {ending : Option ParseError} {early late : List ParseError} {us vs : List Token}
      (first : Uses none early us) (second : Uses ending late vs) :
      Uses ending (early ++ late) (us ++ vs)
  | block {ending : Option ParseError} {recorded : List ParseError} {token : Token}
      {us : List Token} (opening : token.kind = .lbrace)
      (inside : UsesInside ending recorded us) : Uses ending recorded (token :: us)

/-- The same behind the opening brace of a block, up to its closing brace. -/
inductive UsesInside : Option ParseError → List ParseError → List Token → Prop
  | close {token : Token} (closing : token.kind = .rbrace) : UsesInside none [] [token]
  | ended {error : ParseError} (carries : error.token? = none) : UsesInside (some error) [] []
  | abandoned {error : ParseError} {recorded : List ParseError} {us : List Token}
      (carries : error.token? = none) (statement : Uses (some error) recorded us) :
      UsesInside (some error) recorded us
  | statement {ending : Option ParseError} {early late : List ParseError} {us vs : List Token}
      (first : Uses none early us) (others : UsesInside ending late vs) :
      UsesInside ending (early ++ late) (us ++ vs)
  | semicolon {ending : Option ParseError} {recorded : List ParseError} {token : Token}
      {us : List Token} (kind : token.kind = .semicolon)
      (others : UsesInside ending recorded us) : UsesInside ending recorded (token :: us)
  | closedByFault {error : ParseError} {token : Token} {recorded : List ParseError}
      {us : List Token} (carries : error.token? = some token) (closing : token.kind = .rbrace)
      (statement : Uses (some error) recorded us) : UsesInside none (recorded ++ [error]) us
  | resumed {error : ParseError} {token : Token} {ending : Option ParseError}
      {early late : List ParseError} {us passed vs : List Token}
      (carries : error.token? = some token) (goesOn : token.kind ≠ .rbrace)
      (statement : Uses (some error) early us)
      (level : depthAfter (leftOpen token.kind) passed = some 0)
      (others : UsesInside ending late vs) :
      UsesInside ending (early ++ error :: late) (us ++ (passed ++ vs))
  | lost {error last : ParseError} {token : Token} {recorded : List ParseError} {depth : Nat}
      {us passed : List Token} (carries : error.token? = some token)
      (goesOn : token.kind ≠ .rbrace) (statement : Uses (some error) recorded us)
      (unclosed : depthAfter (leftOpen token.kind) passed = some depth)
      (premature : last.token? = none) :
      UsesInside (some last) (recorded ++ [error]) (us ++ passed)

end

abbrev Pattern := Option ParseError → List ParseError → List Token → Prop

/-- What a reader does with a list of tokens: it uses up a front part and would do the same whatever
came behind the next token. An error that carries a token has used that token last; one that carries
none has used up everything. -/
inductive Reads (pattern : Pattern) (read : List Token → Step (List Token) α) : List Token → Prop
  | value (used : List Token) {rest : List Token} {recorded : List ParseError} (value : α)
      (uses : pattern none recorded used)
      (same : ∀ more, more.head? = rest.head? → read (used ++ more) = ⟨.ok value, recorded, more⟩) :
      Reads pattern read (used ++ rest)
  | fault (front : List Token) {rest : List Token} {token : Token} {recorded : List ParseError}
      (error : ParseError) (carries : error.token? = some token)
      (uses : pattern (some error) recorded (front ++ [token]))
      (same : ∀ more, read (front ++ token :: more) = ⟨.error error, recorded, more⟩) :
      Reads pattern read (front ++ token :: rest)
  | ended {tokens : List Token} {recorded : List ParseError} {error : ParseError}
      (carries : error.token? = none) (uses : pattern (some error) recorded tokens)
      (step : read tokens = ⟨.error error, recorded, []⟩) : Reads pattern read tokens

variable {pattern : Pattern} {read : List Token → Step (List Token) α} {tokens rest : List Token}

theorem Reads.rest_length_le (reads : Reads pattern read tokens) :
    (read tokens).rest.length ≤ tokens.length := by
  cases reads with
  | value used value uses same => rw [same _ rfl]; simp
  | fault front error carries uses same => rw [same]; simp; omega
  | ended carries uses step => rw [step]; simp

/-- A value that was read does not depend on what comes behind the next token. -/
theorem Reads.exchange {used more : List Token} {value : α}
    (reads : Reads pattern read (used ++ rest)) (step : read (used ++ rest) = .ok value rest)
    (head : more.head? = rest.head?) : read (used ++ more) = .ok value more := by
  generalize whole : used ++ rest = tokens at reads step
  cases reads with
  | @value front left recorded other _ same =>
    rw [same left rfl] at step
    cases step
    rw [List.append_cancel_right whole]
    exact same more head
  | fault front error carries uses same => rw [same] at step; cases step
  | ended carries uses result => rw [result] at step; cases step

theorem Reads.extend {inner outer : Pattern} {next : List Token → Step (List Token) β}
    (reads : Reads inner next rest) (front : List Token) (recorded : List ParseError) (f : β → α)
    (step : ∀ more, more.head? = rest.head? →
      read (front ++ more) = ((next more).map f).after recorded)
    (account : ∀ {ending late vs}, inner ending late vs →
      outer ending (recorded ++ late) (front ++ vs)) :
    Reads outer read (front ++ rest) := by
  cases reads with
  | @value used rest late value uses same =>
    rw [← List.append_assoc]
    apply Reads.value (front ++ used) (f value) (account uses)
    intro more head
    rw [List.append_assoc, step _ (head?_append_congr head), same more head]
    rfl
  | @fault inner rest token late error carries uses same =>
    rw [← List.append_assoc]
    apply Reads.fault (front ++ inner) error carries (by simpa using account uses)
    intro more
    have head : (inner ++ token :: more).head? = (inner ++ token :: rest).head? :=
      head?_append_congr rfl
    rw [List.append_assoc, step _ head, same more]
    rfl
  | @ended _ late error carries uses result =>
    apply Reads.ended carries (account uses)
    rw [step rest rfl, result]
    rfl

theorem Reads.congr {read' : List Token → Step (List Token) α} (reads : Reads pattern read tokens)
    (same : ∀ tokens, read' tokens = read tokens) : Reads pattern read' tokens := by
  rw [funext same]
  exact reads

theorem Reads.map (f : α → β) (reads : Reads Uses read tokens) :
    Reads Uses (fun tokens => (read tokens).map f) tokens :=
  reads.extend [] [] f (fun _ _ => rfl) fun uses => uses

theorem Reads.after_token {next : List Token → Step (List Token) α} {token : Token}
    (reads : Reads Uses next rest) (plain : Plain token.kind)
    (step : ∀ more, read (token :: more) = next more) : Reads Uses read (token :: rest) :=
  reads.extend [token] [] id
    (fun more _ => (step more).trans (Step.map_id _).symm) fun uses => .sequence (.token plain) uses

theorem Reads.andThen {next : α → List Token → Step (List Token) β}
    (reads : Reads Uses read tokens)
    (follow : ∀ {value rest}, rest.length ≤ tokens.length → Reads Uses (next value) rest) :
    Reads Uses (fun tokens => (read tokens).andThen next) tokens := by
  cases reads with
  | @value used rest recorded value uses same =>
    have shorter : rest.length ≤ (used ++ rest).length := by simp
    apply (@follow value rest shorter).extend used recorded id
    · intro more head
      rw [same more head, Step.map_id]
      rfl
    · exact .sequence uses
  | @fault front rest token recorded error carries uses same =>
    apply Reads.fault front error carries uses
    intro more
    rw [same more]
    rfl
  | ended carries uses step =>
    apply Reads.ended carries uses
    rw [step]
    rfl

end Monkey.Parse
