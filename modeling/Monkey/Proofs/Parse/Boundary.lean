import Monkey.Proofs.Parse.Acceptance

/-!
Recovery respects the boundary behind a semicolon outside all braces. Whatever a reader uses up has
braces that fit what it did: a finished one has closed all that it opened, a refused token stands
outside the braces of the finished parts, and running out of tokens leaves braces open or no
semicolon in the last place. So a balanced list that ends in a semicolon is never looked past.
-/
namespace Monkey
open Supply

def Reading.append (first second : Reading (List Token)) : Reading (List Token) :=
  ⟨first.program ++ second.program, first.errors ++ second.errors, second.rest⟩

def reported (result : Except (List ParseError) Program) : List ParseError :=
  match result with
  | .ok _ => []
  | .error errors => errors

namespace Parse

def Ended (tokens : List Token) : Prop :=
  ∃ last, tokens.getLast? = some last ∧ last.kind = .semicolon

theorem not_ended_nil : ¬ Ended [] := by
  rintro ⟨last, found, -⟩
  contradiction

theorem ended_concat {front : List Token} {last : Token} :
    Ended (front ++ [last]) ↔ last.kind = .semicolon := by
  simp [Ended]

theorem ended_append {front rest : List Token} (nonempty : rest ≠ []) :
    Ended (front ++ rest) ↔ Ended rest := by
  simp [Ended, List.getLast?_append, nonempty]

theorem Ended.tail {token : Token} {rest : List Token} (ended : Ended (token :: rest))
    (more : rest ≠ []) : Ended rest := by
  rw [← List.singleton_append] at ended
  exact (ended_append more).1 ended

theorem Ended.singleton {token : Token} (ended : Ended [token]) : token.kind = .semicolon := by
  rw [← List.nil_append [token], ended_concat] at ended
  exact ended

theorem Ended.more {token : Token} {rest : List Token} (ended : Ended (token :: rest))
    (other : token.kind ≠ .semicolon) : rest ≠ [] := by
  rintro rfl
  exact other ended.singleton

/-- The braces of tokens that were used up by a reader which ended so. -/
def Fits (ending : Option ParseError) (tokens : List Token) : Prop :=
  match ending with
  | none => depthAfter 0 tokens = some 0 ∧ ¬ Ended tokens
  | some error =>
    match error.token? with
    | some token => ∃ front, tokens = front ++ [token] ∧ depthAfter 0 front = some 0
    | none => ∃ depth, depthAfter 0 tokens = some depth ∧ (depth = 0 → ¬ Ended tokens)

def FitsInside (ending : Option ParseError) (tokens : List Token) : Prop :=
  match ending with
  | none => ∃ front close, tokens = front ++ [close] ∧ close.kind = .rbrace ∧
      depthAfter 0 front = some 0
  | some error => error.token? = none ∧ ∃ depth, depthAfter 0 tokens = some depth

theorem fits_fault {error : ParseError} {token : Token} {tokens : List Token}
    (carries : error.token? = some token) :
    Fits (some error) tokens ↔
      ∃ front, tokens = front ++ [token] ∧ depthAfter 0 front = some 0 := by
  simp only [Fits, carries]

theorem fits_premature {error : ParseError} {tokens : List Token} (carries : error.token? = none) :
    Fits (some error) tokens ↔
      ∃ depth, depthAfter 0 tokens = some depth ∧ (depth = 0 → ¬ Ended tokens) := by
  simp only [Fits, carries]

theorem Fits.behind {ending : Option ParseError} {front tokens : List Token}
    (finished : depthAfter 0 front = some 0 ∧ ¬ Ended front) (fits : Fits ending tokens) :
    Fits ending (front ++ tokens) := by
  obtain ⟨level, unended⟩ := finished
  have ended (other : ¬ Ended tokens) : ¬ Ended (front ++ tokens) := by
    by_cases nonempty : tokens = []
    · rwa [nonempty, List.append_nil]
    · rwa [ended_append nonempty]
  cases ending with
  | none => exact ⟨(depthAfter_append_of_some level tokens).trans fits.1, ended fits.2⟩
  | some error =>
    cases carries : error.token? with
    | some token =>
      obtain ⟨inner, rfl, innerLevel⟩ := (fits_fault carries).1 fits
      have whole : depthAfter 0 (front ++ inner) = some 0 := by
        rw [depthAfter_append_of_some level, innerLevel]
      exact (fits_fault carries).2 ⟨front ++ inner, by simp, whole⟩
    | none =>
      obtain ⟨depth, after, last⟩ := (fits_premature carries).1 fits
      have whole : depthAfter 0 (front ++ tokens) = some depth := by
        rw [depthAfter_append_of_some level, after]
      exact (fits_premature carries).2 ⟨depth, whole, fun zero => ended (last zero)⟩

theorem FitsInside.behind {ending : Option ParseError} {front tokens : List Token}
    (level : depthAfter 0 front = some 0) (fits : FitsInside ending tokens) :
    FitsInside ending (front ++ tokens) := by
  cases ending with
  | none =>
    obtain ⟨inner, close, rfl, closing, innerLevel⟩ := fits
    have whole : depthAfter 0 (front ++ inner) = some 0 := by
      rw [depthAfter_append_of_some level, innerLevel]
    exact ⟨front ++ inner, close, by simp, closing, whole⟩
  | some error =>
    obtain ⟨carries, depth, after⟩ := fits
    have whole : depthAfter 0 (front ++ tokens) = some depth := by
      rw [depthAfter_append_of_some level, after]
    exact ⟨carries, depth, whole⟩

theorem FitsInside.enclose {ending : Option ParseError} {token : Token} {tokens : List Token}
    (opening : token.kind = .lbrace) (fits : FitsInside ending tokens) :
    Fits ending (token :: tokens) := by
  cases ending with
  | none =>
    obtain ⟨front, close, rfl, closing, level⟩ := fits
    have around : depthAfter 1 front = some 1 := by simpa using depthAfter_add level 1
    constructor
    · rw [depthAfter_lbrace opening, depthAfter_append_of_some around,
        depthAfter_rbrace_succ closing, depthAfter_nil]
    · rw [← List.cons_append, ended_concat, closing]
      decide
  | some error =>
    obtain ⟨carries, depth, after⟩ := fits
    have around : depthAfter 0 (token :: tokens) = some (depth + 1) := by
      rw [depthAfter_lbrace opening]
      simpa using depthAfter_add after 1
    exact (fits_premature carries).2 ⟨depth + 1, around, fun zero => absurd zero (by omega)⟩

theorem depthAfter_passed {error : ParseError} {token : Token} {us passed : List Token}
    {depth : Nat} (carries : error.token? = some token) (goesOn : token.kind ≠ .rbrace)
    (fits : Fits (some error) us) (level : depthAfter (leftOpen token.kind) passed = some depth) :
    depthAfter 0 (us ++ passed) = some depth := by
  obtain ⟨front, rfl, frontLevel⟩ := (fits_fault carries).1 fits
  rw [List.append_assoc, depthAfter_append_of_some frontLevel,
    depthAfter_append_of_some (depthAfter_leftOpen goesOn), level]

mutual

theorem Uses.fits {ending : Option ParseError} {recorded : List ParseError} {tokens : List Token} :
    Uses ending recorded tokens → Fits ending tokens
  | .nothing => ⟨depthAfter_nil 0, not_ended_nil⟩
  | @Uses.token token plain => by
    obtain ⟨opening, closing, semicolon⟩ := plain
    constructor
    · rw [depthAfter_other opening closing, depthAfter_nil]
    · intro ended
      exact semicolon ended.singleton
  | .fault carries => (fits_fault carries).2 ⟨[], rfl, depthAfter_nil 0⟩
  | .ended carries => (fits_premature carries).2 ⟨0, depthAfter_nil 0, fun _ => not_ended_nil⟩
  | .sequence first second => second.fits.behind first.fits
  | .block opening inside => inside.fits.enclose opening

theorem UsesInside.fits {ending : Option ParseError} {recorded : List ParseError}
    {tokens : List Token} : UsesInside ending recorded tokens → FitsInside ending tokens
  | @UsesInside.close token closing => ⟨[], token, rfl, closing, depthAfter_nil 0⟩
  | .ended carries => ⟨carries, 0, depthAfter_nil 0⟩
  | .abandoned carries statement => by
    obtain ⟨depth, after, -⟩ := (fits_premature carries).1 statement.fits
    exact ⟨carries, depth, after⟩
  | .statement first others => others.fits.behind first.fits.1
  | @UsesInside.semicolon _ _ token us kind others => by
    have level : depthAfter 0 [token] = some 0 := by
      rw [depthAfter_other (by rw [kind]; decide) (by rw [kind]; decide), depthAfter_nil]
    exact others.fits.behind level
  | @UsesInside.closedByFault _ token _ _ carries closing statement => by
    obtain ⟨front, rfl, level⟩ := (fits_fault carries).1 statement.fits
    exact ⟨front, token, rfl, closing, level⟩
  | .resumed carries goesOn statement level others => by
    rw [← List.append_assoc]
    exact others.fits.behind (depthAfter_passed carries goesOn statement.fits level)
  | .lost carries goesOn statement unclosed premature =>
    ⟨premature, _, depthAfter_passed carries goesOn statement.fits unclosed⟩

end

structure Bounded (tokens : List Token) : Prop where
  level : depthAfter 0 tokens = some 0
  ended : tokens ≠ [] → Ended tokens

theorem Bounded.behind {front rest : List Token} (bounded : Bounded (front ++ rest))
    (level : depthAfter 0 front = some 0) : Bounded rest := by
  constructor
  · have after := bounded.level
    rwa [depthAfter_append_of_some level] at after
  · intro nonempty
    have whole : front ++ rest ≠ [] := by simp [nonempty]
    exact (ended_append nonempty).1 (bounded.ended whole)

/-- Skipping inside a bounded list ends inside it, whatever comes behind. -/
theorem skip_bounded {depth : Nat} {tokens : List Token}
    (level : depthAfter depth tokens = some 0) (ended : Ended tokens) :
    Bounded (skip .top depth tokens) ∧
      ∀ more, skip .top depth (tokens ++ more) = skip .top depth tokens ++ more := by
  induction tokens generalizing depth with
  | nil => exact absurd ended not_ended_nil
  | cons token rest ih =>
    rcases depthAfter_token depth token with ⟨inner, after⟩ | ⟨rfl, closing⟩
    · have behind := level
      rw [depthAfter_cons after] at behind
      by_cases stop : token.kind = .semicolon ∧ depth = 0
      · obtain ⟨semicolon, rfl⟩ := stop
        have same : inner = 0 := by
          rw [depthAfter_other (by simp [semicolon]) (by simp [semicolon]), depthAfter_nil] at after
          exact (Option.some.inj after).symm
        rw [same] at behind
        simp only [List.cons_append, skip_stop semicolon]
        exact ⟨⟨behind, ended.tail⟩, fun _ => trivial⟩
      · -- the last token is a semicolon at depth 0, so skipping stops there at the latest
        have nonempty : rest ≠ [] := by
          rintro rfl
          have semicolon : token.kind = .semicolon := ended.singleton
          rw [depthAfter_other (by simp [semicolon]) (by simp [semicolon]), depthAfter_nil] at level
          exact stop ⟨semicolon, Option.some.inj level⟩
        simp only [List.cons_append, skip_goesOn after stop]
        exact ih behind (ended.tail nonempty)
    · rw [depthAfter_rbrace_zero closing] at level
      contradiction

/-- Behind a fault reading goes on at the same place, whatever comes behind the boundary. -/
theorem resumeAtTop_bounded {error : ParseError} {token : Token} {front left : List Token}
    (carries : error.token? = some token) (level : depthAfter 0 front = some 0)
    (bounded : Bounded (front ++ token :: left)) :
    Bounded (resumeAtTop error left) ∧
      ∀ more, resumeAtTop error (left ++ more) = resumeAtTop error left ++ more := by
  have here := bounded.behind level
  have ended := here.ended (List.cons_ne_nil token left)
  have closing : token.kind ≠ .rbrace := by
    intro closing
    have level := here.level
    rw [depthAfter_rbrace_zero closing] at level
    contradiction
  have inner : depthAfter (leftOpen token.kind) left = some 0 := by
    rw [← depthAfter_cons (depthAfter_leftOpen closing)]
    exact here.level
  simp only [resumeAtTop_eq carries, resumption]
  by_cases semicolon : token.kind = .semicolon
  · rw [semicolon] at inner
    simp only [semicolon, if_true]
    exact ⟨⟨inner, ended.tail⟩, fun _ => trivial⟩
  · simp only [semicolon, if_false]
    exact skip_bounded inner (ended.tail (ended.more semicolon))

theorem dropSemicolon_bounded {tokens : List Token} (nonempty : tokens ≠ [])
    (bounded : Bounded tokens) :
    Bounded (dropSemicolon tokens) ∧
      ∀ more, dropSemicolon (tokens ++ more) = dropSemicolon tokens ++ more := by
  obtain ⟨token, rest, rfl⟩ := List.exists_cons_of_ne_nil nonempty
  by_cases semicolon : token.kind = .semicolon
  · simp only [List.cons_append, dropSemicolon_found semicolon]
    have level := bounded.level
    rw [depthAfter_other (by rw [semicolon]; decide) (by rw [semicolon]; decide)] at level
    exact ⟨⟨level, (bounded.ended nonempty).tail⟩, fun _ => trivial⟩
  · have same (more : List Token) : dropSemicolon (token :: more) = token :: more :=
      dropSemicolon_other fun faces => semicolon (faces_cons.1 faces)
    simp only [List.cons_append, same]
    exact ⟨bounded, fun _ => trivial⟩

theorem append_addStatement (value : Stmt) (recorded : List ParseError)
    (first second : Reading (List Token)) :
    (first.addStatement value recorded).append second =
      (first.append second).addStatement value recorded := by
  simp [Reading.append, Reading.addStatement]

theorem append_addError (error : ParseError) (recorded : List ParseError)
    (first second : Reading (List Token)) :
    (first.addError error recorded).append second =
      (first.append second).addError error recorded := by
  simp [Reading.append, Reading.addError]

abbrev Splits (rest front : List Token) : Prop :=
  statements (front ++ rest) = (statements front).append (statements rest)

theorem splits_of_value {used left rest : List Token} {recorded : List ParseError} {value : Stmt}
    (bounded : Bounded (used ++ left)) (nonempty : used ++ left ≠ [])
    (uses : Uses none recorded used)
    (same : ∀ more, more.head? = left.head? →
      statement (used ++ more) = ⟨.ok value, recorded, more⟩)
    (ih : ∀ more, more.length < (used ++ left).length → Bounded more → Splits rest more) :
    Splits rest (used ++ left) := by
  obtain ⟨level, unended⟩ := uses.fits
  have more : left ≠ [] := by
    rintro rfl
    rw [List.append_nil] at bounded nonempty
    exact unended (bounded.ended nonempty)
  have head : (left ++ rest).head? = left.head? := by
    cases left with
    | nil => contradiction
    | cons token left => rfl
  have step : statement (used ++ left ++ rest) = ⟨.ok value, recorded, left ++ rest⟩ := by
    rw [List.append_assoc]
    exact same _ head
  have longer : used ++ left ++ rest ≠ [] := List.append_ne_nil_of_left_ne_nil nonempty rest
  have shorter := statement_rest_length_lt nonempty
  rw [same left rfl] at shorter
  obtain ⟨inner, dropped⟩ := dropSemicolon_bounded more (bounded.behind level)
  have less := Nat.lt_of_le_of_lt (dropSemicolon_length_le left) shorter
  rw [Splits, statements_of_ok (peek?_ne_none longer) step,
    statements_of_ok (peek?_ne_none nonempty) (same left rfl), dropped, append_addStatement,
    ih _ less inner]

theorem splits_of_fault {front left rest : List Token} {token : Token} {recorded : List ParseError}
    {error : ParseError} (bounded : Bounded (front ++ token :: left))
    (carries : error.token? = some token) (uses : Uses (some error) recorded (front ++ [token]))
    (same : ∀ more, statement (front ++ token :: more) = ⟨.error error, recorded, more⟩)
    (ih : ∀ more, more.length < (front ++ token :: left).length → Bounded more →
      Splits rest more) : Splits rest (front ++ token :: left) := by
  obtain ⟨outside, whole, level⟩ := (fits_fault carries).1 uses.fits
  rw [← List.append_cancel_right whole] at level
  have step : statement (front ++ token :: left ++ rest) =
      ⟨.error error, recorded, left ++ rest⟩ := by
    rw [List.append_assoc, List.cons_append]
    exact same _
  have nonempty : front ++ token :: left ≠ [] := by simp
  have longer : front ++ token :: left ++ rest ≠ [] := by simp
  have shorter := statement_rest_length_lt nonempty
  rw [same left] at shorter
  obtain ⟨inner, resumed⟩ := resumeAtTop_bounded carries level bounded
  have less := Nat.lt_of_le_of_lt (resumeAtTop_length_le error left) shorter
  rw [Splits, statements_of_error (peek?_ne_none longer) step,
    statements_of_error (peek?_ne_none nonempty) (same left), resumed, append_addError,
    ih _ less inner]

/-- Tokens up to a boundary are read the same whatever comes behind, and what comes behind is read
as if nothing had been in front. -/
theorem statements_append {front : List Token} (bounded : Bounded front) (rest : List Token) :
    statements (front ++ rest) = (statements front).append (statements rest) := by
  induction size : front.length using Nat.strongRecOn generalizing front with
  | ind n ih =>
    have shorter : ∀ more, more.length < front.length → Bounded more → Splits rest more := by
      intro more less inner
      exact ih more.length (size ▸ less) inner rfl
    by_cases empty : front = []
    · rw [empty, List.nil_append, statements_nil]
      rfl
    · cases (allRead front).statement with
      | value used value uses same => exact splits_of_value bounded empty uses same shorter
      | fault inner error carries uses same =>
        exact splits_of_fault bounded carries uses same shorter
      | ended carries uses step =>
        -- tokens that end too early leave a brace open or do not end in a semicolon
        obtain ⟨depth, after, last⟩ := (fits_premature carries).1 uses.fits
        have level := bounded.level
        rw [after, Option.some.injEq] at level
        exact absurd (bounded.ended empty) (last level)

theorem reported_program (tokens : List Token) :
    reported (Parser.ofTokens tokens).program.1 =
      (statements (Parser.ofTokens tokens).readable).errors := by
  cases result : (Parser.ofTokens tokens).program.1 with
  | ok program => rw [program_eq_ok_iff.1 result, reported]
  | error errors => rw [(program_eq_error_iff.1 result).2, reported]

/-- No mistake in front of a boundary hides, invents or changes anything behind it. -/
theorem program_compositional {front : List Token} (rest : List Token)
    (free : ∀ token ∈ front, token.kind ≠ .eof) (balanced : Balanced front) (ended : Ended front) :
    reported (Parser.ofTokens (front ++ rest)).program.1 =
        reported (Parser.ofTokens front).program.1 ++ reported (Parser.ofTokens rest).program.1 ∧
      ((∃ program, (Parser.ofTokens (front ++ rest)).program.1 = .ok program) ↔
        (∃ program, (Parser.ofTokens front).program.1 = .ok program) ∧
          ∃ program, (Parser.ofTokens rest).program.1 = .ok program) ∧
      ∀ first second, (Parser.ofTokens front).program.1 = .ok first →
        (Parser.ofTokens rest).program.1 = .ok second →
        (Parser.ofTokens (front ++ rest)).program.1 = .ok (first ++ second) := by
  have bounded : Bounded front := ⟨balanced_iff_depthAfter.1 balanced, fun _ => ended⟩
  have whole := statements_append bounded (Parser.ofTokens rest).readable
  rw [← readable_append free] at whole
  have alone := readable_of_eofFree free
  simp only [program_eq_ok_iff, reported_program, whole, alone]
  have left := statements_rest front
  have left' := statements_rest (Parser.ofTokens rest).readable
  generalize statements front = first at left
  generalize statements (Parser.ofTokens rest).readable = second at left'
  obtain ⟨program, errors, _⟩ := first
  obtain ⟨behind, later, _⟩ := second
  cases left
  cases left'
  constructor
  · rfl
  constructor
  · simp [Reading.append]
  · intro first second accepted following
    cases accepted
    cases following
    rfl

/-- What `let { ; } ;` is made of. The token at fault opens a brace, and the first semicolon stands
inside it. -/
def faultyBrace : List Token :=
  [⟨.letKeyword, 0, 3⟩, ⟨.lbrace, 4, 5⟩, ⟨.semicolon, 6, 7⟩, ⟨.rbrace, 8, 9⟩, ⟨.semicolon, 10, 11⟩]

theorem faultyBrace_hides_nothing :
    EofFree faultyBrace ∧ Balanced faultyBrace ∧ Ended faultyBrace ∧
      reported (Parser.ofTokens (faultyBrace ++ [⟨.plus, 12, 13⟩])).program.1 =
        reported (Parser.ofTokens faultyBrace).program.1 ++
          reported (Parser.ofTokens [⟨.plus, 12, 13⟩]).program.1 := by
  have free : EofFree faultyBrace := by decide
  have balanced : Balanced faultyBrace := balanced_iff_depthAfter.2 (by decide)
  have ended : Ended faultyBrace := ⟨_, rfl, rfl⟩
  exact ⟨free, balanced, ended, (program_compositional _ free balanced ended).1⟩

end Parse

end Monkey
