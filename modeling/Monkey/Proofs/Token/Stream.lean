import Monkey.Proofs.Token.Tiling

/-!
Tokenizers in use. A tokenizer can be asked for the next token and for the next element of its
sequence, and it can be cloned, in any order. All the tokens that it hands out, in whichever way,
are one stream, and the clones go on where the one they are made from stands. Only asking for an
element can come to nothing, and does so once an element that was given is the end marker.
-/
namespace Monkey
open Text (isBlank)
open Token (Lexeme Cuts)

namespace Tokenizer

/-- The tokens of the text, and from then on the end marker for ever. -/
def stream (source : String) (i : Nat) : Token :=
  (lex source)[i]?.getD ⟨.eof, source.utf8ByteSize, source.utf8ByteSize⟩

def ahead (t : Tokenizer) : Nat → Token
  | 0 => t.nextToken.1
  | i + 1 => t.nextToken.2.ahead i

theorem ahead_congr {t t' : Tokenizer} (same : t.nextToken = t'.nextToken) (i : Nat) :
    t.ahead i = t'.ahead i := by
  cases i with
  | zero => rw [ahead, ahead, same]
  | succ i => rw [ahead, ahead, same]

theorem nextToken_finished (t : Tokenizer) : t.nextToken.2.finished = t.finished := by
  unfold nextToken
  split <;> rfl

theorem ahead_marked (t : Tokenizer) (finished : Bool) (i : Nat) :
    ({ t with finished } : Tokenizer).ahead i = t.ahead i := by
  have step (t : Tokenizer) : ({ t with finished } : Tokenizer).nextToken =
      (t.nextToken.1, { t.nextToken.2 with finished }) := by
    simp only [nextToken]
    cases t.rest.dropWhile isBlank <;> rfl
  induction i generalizing t with
  | zero => rw [ahead, ahead, step]
  | succ i ih => rw [ahead, ahead, step, ih]

theorem ahead_nil (position : Nat) (finished : Bool) (i : Nat) :
    (Tokenizer.mk [] position finished).ahead i = ⟨.eof, position, position⟩ := by
  induction i with
  | zero => rfl
  | succ i ih => exact ih

end Tokenizer

theorem Token.Cuts.ahead {cs : List Char} {kinds : List Token.Kind} (cuts : Cuts cs kinds)
    (position : Nat) (i : Nat) :
    (Tokenizer.mk cs position false).ahead i =
      (Tokenizer.drain ⟨cs, position, false⟩).1[i]?.getD
        ⟨.eof, position + Text.width cs, position + Text.width cs⟩ := by
  induction cuts generalizing position i with
  | done =>
    rw [Tokenizer.ahead_nil, Token.drain_nil]
    cases i <;> rfl
  | @blank c cs kinds blank _ ih =>
    rw [Tokenizer.ahead_congr (Token.nextToken_blank blank cs position false), ih,
      Token.drain_blank blank, Text.width, Nat.add_assoc]
  | @lexeme c cs kinds visible _ ih =>
    have size := congrArg Text.width (Lexeme.scan_text_append_rest c cs)
    rw [Text.width_append] at size
    rw [Token.drain_lexeme visible]
    cases i with
    | zero =>
      rw [Tokenizer.ahead, Token.nextToken_lexeme visible]
      rfl
    | succ i =>
      rw [Tokenizer.ahead, Token.nextToken_lexeme visible, ih, List.getElem?_cons_succ, ← size,
        Nat.add_assoc]

namespace Tokenizer

theorem ahead_ofSource (source : String) : (ofSource source).ahead = stream source := by
  obtain ⟨kinds, cuts⟩ := Token.exists_cuts source.toList
  funext i
  rw [ofSource, cuts.ahead 0, stream, Nat.zero_add, ← Text.utf8ByteSize_eq_width]
  rfl

inductive Answer
  | token (token : Token)
  | element (found : Option Token)
  deriving DecidableEq

def Answer.token? : Answer → Option Token
  | .token given => some given
  | .element found => found

def GaveEnd (answers : List Answer) : Prop :=
  ∃ token, .element (some token) ∈ answers ∧ token.kind = .eof

/-- A tokenizer and the answers in its history, the oldest first. A clone has the history of the
tokenizer that it was made from up to then. -/
structure Copy where
  tokenizer : Tokenizer
  answers : List Answer
  deriving DecidableEq

namespace Copy

def nextToken (copy : Copy) : Copy :=
  ⟨copy.tokenizer.nextToken.2, copy.answers ++ [.token copy.tokenizer.nextToken.1]⟩

def next (copy : Copy) : Copy :=
  match copy.tokenizer.next? with
  | none => ⟨copy.tokenizer, copy.answers ++ [.element none]⟩
  | some (token, after) => ⟨after, copy.answers ++ [.element (some token)]⟩

def handedOut (copy : Copy) : List Token := copy.answers.filterMap Answer.token?

end Copy

/-- What the user does. Tokenizers are numbered as they are made. -/
inductive Operation
  | nextToken (number : Nat)
  | next (number : Nat)
  | clone (number : Nat)

def perform (copies : List Copy) : Operation → List Copy
  | .nextToken number => copies.modify number Copy.nextToken
  | .next number => copies.modify number Copy.next
  | .clone number => copies ++ copies[number]?.toList

def performAll (source : String) (operations : List Operation) : List Copy :=
  operations.foldl perform [⟨ofSource source, []⟩]

structure Copy.Sound (source : String) (copy : Copy) : Prop where
  ahead : ∀ i, copy.tokenizer.ahead i = stream source (copy.handedOut.length + i)
  behind : ∀ i token, copy.handedOut[i]? = some token → token = stream source i
  finished : copy.tokenizer.finished = true ↔ GaveEnd copy.answers
  elements : ∀ i found, copy.answers[i]? = some (.element found) →
    (found = none ↔ GaveEnd (copy.answers.take i))

theorem gaveEnd_concat {answers : List Answer} {answer : Answer} :
    GaveEnd (answers ++ [answer]) ↔ GaveEnd answers ∨
      ∃ token, answer = .element (some token) ∧ token.kind = .eof := by
  simp only [GaveEnd, List.mem_append, List.mem_singleton, or_and_right, exists_or]
  simp only [eq_comm]

theorem found_in_concat {α : Type} {items : List α} {last item : α} {i : Nat}
    (here : (items ++ [last])[i]? = some item) :
    i < items.length ∧ items[i]? = some item ∨ i = items.length ∧ item = last := by
  by_cases old : i < items.length
  · rw [List.getElem?_append_left old] at here
    exact .inl ⟨old, here⟩
  · have inside := (List.getElem?_eq_some_iff.1 here).1
    rw [List.length_append, List.length_singleton] at inside
    have new : i = items.length := by omega
    rw [new, List.getElem?_concat_length] at here
    exact .inr ⟨new, (Option.some.inj here).symm⟩

namespace Copy

variable {source : String} {copy : Copy} {after : Tokenizer} {answer : Answer} {token : Token}

theorem sound_new (source : String) : Sound source ⟨ofSource source, []⟩ where
  ahead i := by rw [ahead_ofSource]; simp [handedOut]
  behind := by simp [handedOut]
  finished := by simp [ofSource, GaveEnd]
  elements := by simp

theorem Sound.elements_concat (sound : copy.Sound source)
    (right : ∀ found, answer = .element found → (found = none ↔ copy.tokenizer.finished = true))
    (i : Nat) (found : Option Token)
    (here : (copy.answers ++ [answer])[i]? = some (.element found)) :
    found = none ↔ GaveEnd ((copy.answers ++ [answer]).take i) := by
  rcases found_in_concat here with ⟨old, there⟩ | ⟨rfl, same⟩
  · rw [List.take_append_of_le_length (Nat.le_of_lt old)]
    exact sound.elements i found there
  · rw [List.take_left, ← sound.finished]
    exact right found same.symm

theorem Sound.hand (sound : copy.Sound source) (first : token = copy.tokenizer.ahead 0)
    (others : ∀ i, after.ahead i = copy.tokenizer.ahead (i + 1))
    (gives : answer.token? = some token)
    (flag : after.finished = true ↔ copy.tokenizer.finished = true ∨
      ∃ token, answer = .element (some token) ∧ token.kind = .eof)
    (right : ∀ found, answer = .element found → (found = none ↔ copy.tokenizer.finished = true)) :
    Sound source ⟨after, copy.answers ++ [answer]⟩ := by
  have handed : (Copy.mk after (copy.answers ++ [answer])).handedOut =
      copy.handedOut ++ [token] := by
    simp [handedOut, gives]
  refine ⟨?_, ?_, ?_, sound.elements_concat right⟩
  · intro i
    rw [handed, List.length_append, List.length_singleton, others, sound.ahead]
    congr 1
    omega
  · intro i found here
    rw [handed] at here
    rcases found_in_concat here with ⟨-, there⟩ | ⟨rfl, rfl⟩
    · exact sound.behind i found there
    · rw [first, sound.ahead, Nat.add_zero]
  · rw [flag, sound.finished]
    exact gaveEnd_concat.symm

theorem Sound.nextToken (sound : copy.Sound source) : copy.nextToken.Sound source := by
  apply sound.hand rfl (fun _ => rfl) rfl
  · rw [nextToken_finished]
    simp
  · simp

theorem next_of_finished (finished : copy.tokenizer.next? = none) :
    copy.next = ⟨copy.tokenizer, copy.answers ++ [.element none]⟩ := by
  rw [Copy.next, finished]

theorem Sound.next (sound : copy.Sound source) : copy.next.Sound source := by
  cases flag : copy.tokenizer.finished with
  | true =>
    have nothing : copy.tokenizer.next? = none := by
      rw [next?, flag]
      rfl
    have handed : copy.next.handedOut = copy.handedOut := by
      simp [next_of_finished nothing, handedOut, Answer.token?]
    refine ⟨?_, ?_, ?_, ?_⟩
    · rw [handed, next_of_finished nothing]
      exact sound.ahead
    · rw [handed]
      exact sound.behind
    · rw [next_of_finished nothing, gaveEnd_concat, ← sound.finished]
      simp
    · rw [next_of_finished nothing]
      apply sound.elements_concat
      rintro found ⟨⟩
      simp [flag]
  | false =>
    have step : copy.tokenizer.next? = some (copy.tokenizer.nextToken.1,
        { copy.tokenizer.nextToken.2 with
          finished := copy.tokenizer.nextToken.1.kind = .eof }) := by
      rw [next?, flag]
      rfl
    rw [Copy.next, step]
    apply sound.hand rfl (fun i => ahead_marked _ _ i) rfl
    · simp [flag]
    · simp [flag]

/-- The tokenizer and what it has handed out, questions that came to nothing left aside. -/
def view (copy : Copy) : Tokenizer × List Token := (copy.tokenizer, copy.handedOut)

theorem view_nextToken (copy : Copy) : copy.nextToken.view =
    (copy.view.1.nextToken.2, copy.view.2 ++ [copy.view.1.nextToken.1]) := by
  simp [view, Copy.nextToken, handedOut, Answer.token?]

theorem view_next (copy : Copy) : copy.next.view =
    match copy.view.1.next? with
    | none => copy.view
    | some (token, after) => (after, copy.view.2 ++ [token]) := by
  unfold Copy.next view
  cases found : copy.tokenizer.next? with
  | none => simp [handedOut, Answer.token?]
  | some step => simp [handedOut, Answer.token?]

end Copy

theorem sound_perform {source : String} {copies : List Copy}
    (sound : ∀ copy ∈ copies, copy.Sound source) (operation : Operation) :
    ∀ copy ∈ perform copies operation, copy.Sound source := by
  have modified (number : Nat) {f : Copy → Copy}
      (keeps : ∀ copy : Copy, copy.Sound source → (f copy).Sound source) :
      ∀ copy ∈ copies.modify number f, copy.Sound source := by
    intro copy here
    obtain ⟨i, found⟩ := List.mem_iff_getElem?.1 here
    rw [List.getElem?_modify] at found
    obtain ⟨before, there, rfl⟩ := Option.map_eq_some_iff.1 found
    have old := sound before (List.mem_of_getElem? there)
    split
    · exact keeps before old
    · exact old
  cases operation with
  | nextToken number => exact modified number fun _ => Copy.Sound.nextToken
  | next number => exact modified number fun _ => Copy.Sound.next
  | clone number =>
    intro copy here
    rcases List.mem_append.1 here with here | here
    · exact sound copy here
    · exact sound copy (List.mem_of_getElem? (Option.mem_toList.1 here))

theorem sound_performAll (source : String) (operations : List Operation) :
    ∀ copy ∈ performAll source operations, copy.Sound source := by
  have start : ∀ copy ∈ [(⟨ofSource source, []⟩ : Copy)], copy.Sound source :=
    List.forall_mem_singleton.2 (Copy.sound_new source)
  unfold performAll
  generalize [(⟨ofSource source, []⟩ : Copy)] = copies at start
  induction operations generalizing copies with
  | nil => exact start
  | cons operation operations ih => exact ih _ (sound_perform start operation)

theorem view_modify {f : Copy → Copy}
    (alike : ∀ copy copy', copy.view = copy'.view → (f copy).view = (f copy').view)
    {copies copies' : List Copy} (same : copies.map Copy.view = copies'.map Copy.view)
    (number : Nat) :
    (copies.modify number f).map Copy.view = (copies'.modify number f).map Copy.view := by
  apply List.ext_getElem?
  intro i
  have here := congrArg (·[i]?) same
  simp only [List.getElem?_map, List.getElem?_modify] at here ⊢
  cases found : copies[i]? with
  | none =>
    rw [found] at here
    rw [Option.map_eq_none_iff.1 here.symm]
  | some copy =>
    rw [found] at here
    obtain ⟨copy', found', looks⟩ := Option.map_eq_some_iff.1 here.symm
    rw [found']
    split
    · exact congrArg some (alike copy copy' looks.symm)
    · exact congrArg some looks.symm

theorem view_perform {copies copies' : List Copy}
    (same : copies.map Copy.view = copies'.map Copy.view) (operation : Operation) :
    (perform copies operation).map Copy.view = (perform copies' operation).map Copy.view := by
  cases operation with
  | nextToken number =>
    apply view_modify _ same
    intro copy copy' looks
    rw [Copy.view_nextToken, Copy.view_nextToken, looks]
  | next number =>
    apply view_modify _ same
    intro copy copy' looks
    rw [Copy.view_next, Copy.view_next, looks]
  | clone number =>
    have cloned (copies : List Copy) : (perform copies (.clone number)).map Copy.view =
        copies.map Copy.view ++ (copies.map Copy.view)[number]?.toList := by
      rw [perform, List.map_append, List.getElem?_map, Option.toList_map]
    rw [cloned, cloned, same]

theorem view_foldl {copies copies' : List Copy}
    (same : copies.map Copy.view = copies'.map Copy.view) (operations : List Operation) :
    (operations.foldl perform copies).map Copy.view =
      (operations.foldl perform copies').map Copy.view := by
  induction operations generalizing copies copies' with
  | nil => exact same
  | cons operation operations ih => exact ih (view_perform same operation)

theorem view_next_of_finished {copies : List Copy} {number : Nat} {copy : Copy}
    (here : copies[number]? = some copy) (finished : copy.tokenizer.next? = none) :
    (perform copies (.next number)).map Copy.view = copies.map Copy.view := by
  apply List.ext_getElem?
  intro i
  rw [perform, List.getElem?_map, List.getElem?_map, List.getElem?_modify]
  by_cases same : number = i
  · subst same
    have unchanged : copy.next.view = copy.view := by
      rw [Copy.view_next, Copy.view, finished]
    simp [here, unchanged]
  · simp [same]

/-- However tokens and elements are asked for and tokenizers are cloned, the tokens that a tokenizer
has handed out, before it was cloned and since, are those of the one stream in order. Asking for an
element comes to nothing just when an element given before was the end marker, and then it might as
well not have been asked for. -/
theorem one_stream_under_any_mix (source : String) (operations : List Operation) :
    (∀ copy ∈ performAll source operations,
      (∀ i token, copy.handedOut[i]? = some token → token = stream source i) ∧
      ∀ i found, copy.answers[i]? = some (.element found) →
        (found = none ↔ GaveEnd (copy.answers.take i))) ∧
    ∀ (number : Nat) (copy : Copy) (later : List Operation),
      (performAll source operations)[number]? = some copy → copy.tokenizer.next? = none →
      (performAll source (operations ++ .next number :: later)).map Copy.view =
        (performAll source (operations ++ later)).map Copy.view := by
  constructor
  · intro copy here
    have sound := sound_performAll source operations copy here
    exact ⟨sound.behind, sound.elements⟩
  · intro number copy later here finished
    rw [performAll, performAll, List.foldl_append, List.foldl_append, List.foldl_cons]
    exact view_foldl (view_next_of_finished here finished) later

theorem clone_of_finished_gives_no_element :
    ∃ copy, (performAll "x" [.next 0, .next 0, .clone 0, .next 1, .nextToken 1])[1]? = some copy ∧
      copy.answers[2]? = some (.element none) ∧ GaveEnd (copy.answers.take 2) ∧
      copy.handedOut[2]? = some (stream "x" 2) := by
  let copy : Copy := ⟨⟨[], 1, true⟩, [.element (some ⟨.ident "x", 0, 1⟩),
    .element (some ⟨.eof, 1, 1⟩), .element none, .token ⟨.eof, 1, 1⟩]⟩
  have here : (performAll "x" [.next 0, .next 0, .clone 0, .next 1, .nextToken 1])[1]? =
      some copy := by decide +kernel
  obtain ⟨handed, elements⟩ := (one_stream_under_any_mix "x" _).1 copy (List.mem_of_getElem? here)
  have last : copy.handedOut[2]? = some ⟨.eof, 1, 1⟩ := rfl
  refine ⟨copy, here, rfl, (elements 2 none rfl).1 rfl, ?_⟩
  rw [last, handed 2 _ last]

end Tokenizer

end Monkey
