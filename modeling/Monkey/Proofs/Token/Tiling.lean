import Monkey.Proofs.Token.Cut

/-!
Cutting a text into tokens loses nothing. The text is a gap of white space, a token, another gap and
so on, and every token stands where its place says, so gaps and tokens put together again are the
text.
-/
namespace Monkey

namespace Text

theorem utf8ByteSize_ofList (cs : List Char) : (String.ofList cs).utf8ByteSize = width cs := by
  induction cs with
  | nil => rfl
  | cons c cs ih =>
    rw [String.ofList_cons, String.utf8ByteSize_append, String.utf8ByteSize_singleton, ih, width]

theorem utf8ByteSize_eq_width (text : String) : text.utf8ByteSize = width text.toList := by
  rw [← utf8ByteSize_ofList, String.ofList_toList]

theorem width_pos {cs : List Char} (nonempty : cs ≠ []) : 0 < width cs := by
  cases cs with
  | nil => contradiction
  | cons c cs => exact Nat.add_pos_left c.utf8Size_pos _

/-- The bytes from `start` up to `stop` are those of the text, and they begin and end between
characters. -/
structure StandsAt (source : String) (start stop : Nat) (text : String) : Prop where
  starts : String.Pos.Raw.IsValid source ⟨start⟩
  stops : String.Pos.Raw.IsValid source ⟨stop⟩
  bytes : source.toUTF8.extract start stop = text.toUTF8

theorem standsAt_of_append {source : String} (front text back : String) {start stop : Nat}
    (whole : source = front ++ text ++ back) (starts : start = front.utf8ByteSize)
    (stops : stop = start + text.utf8ByteSize) : StandsAt source start stop text where
  starts := String.Pos.Raw.isValid_iff_exists_append.2
    ⟨front, text ++ back, by rw [whole, String.append_assoc], by rw [starts, String.rawEndPos]⟩
  stops := String.Pos.Raw.isValid_iff_exists_append.2
    ⟨front ++ text, back, whole, by
      rw [stops, starts, String.rawEndPos, String.utf8ByteSize_append]⟩
  bytes := by
    rw [whole, String.toUTF8_eq_toByteArray, String.toUTF8_eq_toByteArray,
      String.toByteArray_append, String.toByteArray_append, ByteArray.extract_append,
      ByteArray.extract_append_eq_right starts (by rw [stops, starts]; rfl), ByteArray.size_append,
      String.size_toByteArray, String.size_toByteArray, stops, starts, Nat.sub_self]
    simp

def BlankAt (source : String) (byte : Nat) : Prop :=
  ∃ front c back, source = front ++ String.singleton c ++ back ∧ front.utf8ByteSize ≤ byte ∧
    byte < front.utf8ByteSize + c.utf8Size ∧ isBlank c = true

theorem blankAt_of_blank (front : String) {gap : List Char} (blank : ∀ c ∈ gap, isBlank c = true)
    (back : String) {byte : Nat} (beyond : front.utf8ByteSize ≤ byte)
    (upTo : byte < front.utf8ByteSize + width gap) :
    BlankAt (front ++ String.ofList gap ++ back) byte := by
  induction gap generalizing front with
  | nil => exact absurd upTo (Nat.not_lt.2 beyond)
  | cons c gap ih =>
    obtain ⟨first, others⟩ := List.forall_mem_cons.1 blank
    rw [width] at upTo
    rw [String.ofList_cons, ← String.append_assoc]
    by_cases here : byte < front.utf8ByteSize + c.utf8Size
    · exact ⟨front, c, String.ofList gap ++ back, String.append_assoc, beyond, here, first⟩
    · apply ih (front ++ String.singleton c) others
      · rw [String.utf8ByteSize_append, String.utf8ByteSize_singleton]
        exact Nat.not_lt.1 here
      · rw [String.utf8ByteSize_append, String.utf8ByteSize_singleton]
        omega

end Text

open Text (isBlank StandsAt BlankAt)
open Token (Kind Lexeme Cuts)

namespace Token

theorem ofWord_spelling (word : String) : (Kind.ofWord word).spelling = word := by
  rw [Kind.ofWord, keywords]
  simp only [List.lookup_cons, List.lookup_nil]
  repeat' split
  all_goals simp_all [Kind.spelling]

theorem ofSymbol_spelling (c : Char) : (Kind.ofSymbol c).spelling = String.singleton c := by
  unfold Kind.ofSymbol
  split <;> rfl

theorem ofQuote_spelling (cs : List Char) :
    (Lexeme.ofQuote cs).kind.spelling = String.ofList (Lexeme.ofQuote cs).text := by
  unfold Lexeme.ofQuote
  split
  · rfl
  · apply String.toList_inj.1
    simp [Kind.spelling]

theorem scan_spelling (c : Char) (cs : List Char) :
    (Lexeme.scan c cs).kind.spelling = String.ofList (Lexeme.scan c cs).text := by
  unfold Lexeme.scan
  split
  · exact ofQuote_spelling cs
  split
  · exact ofWord_spelling _
  split
  · rfl
  · unfold Lexeme.ofSymbol
    repeat' split
    · rfl
    · rfl
    all_goals rw [ofSymbol_spelling, String.singleton_eq_ofList]

end Token

/-- The texts of the tokens, each behind the bytes that lie between it and the one in front of it.
The end marker has no text. -/
def refill (bytes : ByteArray) (position : Nat) : List Token → ByteArray
  | [] => .empty
  | token :: tokens =>
    bytes.extract position token.start ++
      (if token.kind = .eof then .empty else token.spelling.toUTF8) ++
      refill bytes token.stop tokens

/-- From the position on, the text is made up of gaps and tokens in turn, up to the end marker. -/
inductive Tiled : Nat → String → List Token → Prop
  | done (position : Nat) {gap : List Char} (blank : ∀ c ∈ gap, isBlank c = true) {stop : Nat}
    (ends : stop = position + Text.width gap) :
    Tiled position (String.ofList gap) [⟨.eof, stop, stop⟩]
  | token {position : Nat} {gap : List Char} {token : Token} {rest : String} {tokens : List Token}
    (blank : ∀ c ∈ gap, isBlank c = true) (other : token.kind ≠ .eof)
    (starts : token.start = position + Text.width gap)
    (stops : token.stop = token.start + token.spelling.utf8ByteSize)
    (nonempty : token.start < token.stop) (others : Tiled token.stop rest tokens) :
    Tiled position (String.ofList gap ++ token.spelling ++ rest) (token :: tokens)

namespace Tiled

variable {position : Nat} {text : String} {tokens : List Token}

theorem blank {c : Char} (blank : isBlank c = true)
    (tiled : Tiled (position + c.utf8Size) text tokens) :
    Tiled position (String.singleton c ++ text) tokens := by
  cases tiled with
  | @done _ gap blanks stop ends =>
    rw [← String.ofList_cons]
    apply done position (List.forall_mem_cons.2 ⟨blank, blanks⟩)
    rw [ends, Text.width, Nat.add_assoc]
  | @token _ gap token rest tokens blanks other starts stops nonempty others =>
    rw [← String.append_assoc, ← String.append_assoc, ← String.ofList_cons]
    apply Tiled.token (List.forall_mem_cons.2 ⟨blank, blanks⟩) other _ stops nonempty others
    rw [starts, Text.width, Nat.add_assoc]

theorem first (token : Token) {rest : String} (other : token.kind ≠ .eof)
    (starts : token.start = position)
    (stops : token.stop = token.start + token.spelling.utf8ByteSize)
    (nonempty : token.start < token.stop) (others : Tiled token.stop rest tokens) :
    Tiled position (token.spelling ++ rest) (token :: tokens) := by
  have tiled := @Tiled.token position [] token rest tokens (by simp) other starts stops nonempty
    others
  rwa [String.ofList_nil, String.empty_append] at tiled

end Tiled

theorem Token.Cuts.tiled {cs : List Char} {kinds : List Kind} (cuts : Cuts cs kinds)
    (position : Nat) :
    Tiled position (String.ofList cs) (Tokenizer.drain ⟨cs, position, false⟩).1 := by
  induction cuts generalizing position with
  | done =>
    rw [Token.drain_nil]
    exact .done position (by simp) rfl
  | blank blank _ ih =>
    rw [Token.drain_blank blank, String.ofList_cons]
    exact .blank blank (ih _)
  | @lexeme c cs kinds visible _ ih =>
    have size := Text.utf8ByteSize_ofList (Lexeme.scan c cs).text
    rw [← Token.scan_spelling] at size
    have long := Text.width_pos (Lexeme.scan_text_ne_nil c cs)
    rw [Token.drain_lexeme visible, ← Lexeme.scan_text_append_rest c cs, String.ofList_append,
      ← Token.scan_spelling]
    let token : Token := ⟨(Lexeme.scan c cs).kind, position,
      position + Text.width (Lexeme.scan c cs).text⟩
    refine .first token ?_ rfl ?_ ?_ (ih _)
    · exact Token.scan_ne_eof c cs
    · rw [Token.spelling, size]
    · exact Nat.lt_add_of_pos_right long

namespace Tiled

variable {position : Nat} {text : String} {tokens : List Token}

theorem ends (tiled : Tiled position text tokens) : ∃ others,
    (∀ token ∈ others, token.kind ≠ .eof) ∧
      tokens = others ++ [⟨.eof, position + text.utf8ByteSize, position + text.utf8ByteSize⟩] := by
  induction tiled with
  | done position blank ends =>
    refine ⟨[], by simp, ?_⟩
    rw [Text.utf8ByteSize_ofList, ends, List.nil_append]
  | @token position gap token rest tokens blank other starts stops nonempty others ih =>
    obtain ⟨more, proper, rfl⟩ := ih
    refine ⟨token :: more, List.forall_mem_cons.2 ⟨other, proper⟩, ?_⟩
    have size : position + (String.ofList gap ++ token.spelling ++ rest).utf8ByteSize =
        token.stop + rest.utf8ByteSize := by
      rw [String.utf8ByteSize_append, String.utf8ByteSize_append, Text.utf8ByteSize_ofList]
      omega
    rw [size, List.cons_append]

theorem le_start (tiled : Tiled position text tokens) :
    ∀ token ∈ tokens, position ≤ token.start := by
  induction tiled with
  | done position blank ends =>
    intro token here
    rw [List.mem_singleton.1 here, ends]
    exact Nat.le_add_right _ _
  | token blank other starts stops nonempty others ih =>
    intro later here
    rcases List.mem_cons.1 here with rfl | here
    · omega
    · have behind := ih later here
      omega

theorem ordered (tiled : Tiled position text tokens) :
    tokens.Pairwise fun one other => one.stop ≤ other.start := by
  induction tiled with
  | done position blank ends => exact List.pairwise_singleton _ _
  | token blank other starts stops nonempty others ih =>
    exact List.pairwise_cons.2 ⟨others.le_start, ih⟩

theorem regrouped (front gap spelling rest : String) :
    front ++ (gap ++ spelling ++ rest) = front ++ gap ++ spelling ++ rest := by
  simp only [String.append_assoc]

theorem stop_eq {front : String} {gap : List Char} {token : Token}
    (behind : position = front.utf8ByteSize) (starts : token.start = position + Text.width gap)
    (stops : token.stop = token.start + token.spelling.utf8ByteSize) :
    token.stop = (front ++ String.ofList gap ++ token.spelling).utf8ByteSize := by
  rw [String.utf8ByteSize_append, String.utf8ByteSize_append, Text.utf8ByteSize_ofList, stops,
    starts, behind]

/-- Each token's text is found at its place in the source that the text is the end of. -/
theorem found (tiled : Tiled position text tokens) {front : String}
    (behind : position = front.utf8ByteSize) :
    ∀ token ∈ tokens, token.kind ≠ .eof → token.start < token.stop ∧
      ∃ before after, front ++ text = before ++ token.spelling ++ after ∧
        token.start = before.utf8ByteSize ∧
        token.stop = token.start + token.spelling.utf8ByteSize := by
  induction tiled generalizing front with
  | done position blank ends =>
    intro token here other
    rw [List.mem_singleton.1 here] at other
    contradiction
  | @token position gap token rest tokens blank other starts stops nonempty others ih =>
    intro later here proper
    rw [regrouped]
    rcases List.mem_cons.1 here with rfl | here
    · refine ⟨nonempty, front ++ String.ofList gap, rest, rfl, ?_, stops⟩
      rw [String.utf8ByteSize_append, Text.utf8ByteSize_ofList, starts, behind]
    · exact ih (stop_eq behind starts stops) later here proper

theorem blankAt (tiled : Tiled position text tokens) {front : String}
    (behind : position = front.utf8ByteSize) {byte : Nat} (after : position ≤ byte)
    (inside : byte < position + text.utf8ByteSize)
    (uncovered : ∀ token ∈ tokens, byte < token.start ∨ token.stop ≤ byte) :
    BlankAt (front ++ text) byte := by
  induction tiled generalizing front with
  | @done position gap blank stop ends =>
    rw [Text.utf8ByteSize_ofList] at inside
    rw [behind] at after inside
    have found := Text.blankAt_of_blank front blank "" after inside
    rwa [String.append_empty] at found
  | @token position gap token rest tokens blank other starts stops nonempty others ih =>
    obtain ⟨here, elsewhere⟩ := List.forall_mem_cons.1 uncovered
    rw [String.utf8ByteSize_append, String.utf8ByteSize_append, Text.utf8ByteSize_ofList] at inside
    rw [regrouped]
    rcases here with early | late
    · rw [String.append_assoc]
      apply Text.blankAt_of_blank front blank <;> omega
    · exact ih (stop_eq behind starts stops) late (by omega) elsewhere

/-- The gaps are found in the source that the text is the end of, and the tokens bring the rest. -/
theorem refill_eq (tiled : Tiled position text tokens) {front : String}
    (behind : position = front.utf8ByteSize) :
    refill (front ++ text).toUTF8 position tokens = text.toUTF8 := by
  induction tiled generalizing front with
  | @done position gap blank stop ends =>
    have size : stop = position + (String.ofList gap).utf8ByteSize := by
      rw [ends, Text.utf8ByteSize_ofList]
    have stands := Text.standsAt_of_append front (String.ofList gap) "" String.append_empty.symm
      behind size
    rw [refill, refill, stands.bytes, if_pos rfl, ByteArray.append_empty, ByteArray.append_empty]
  | @token position gap token rest tokens blank other starts stops nonempty others ih =>
    have size : token.start = position + (String.ofList gap).utf8ByteSize := by
      rw [starts, Text.utf8ByteSize_ofList]
    have stands : StandsAt (front ++ (String.ofList gap ++ token.spelling ++ rest)) position
        token.start (String.ofList gap) := by
      apply Text.standsAt_of_append front _ (token.spelling ++ rest) _ behind size
      rw [regrouped, String.append_assoc]
    have next := ih (stop_eq behind starts stops)
    rw [← regrouped] at next
    rw [refill, stands.bytes, if_neg other, next]
    simp only [String.toUTF8_eq_toByteArray, String.toByteArray_append]

end Tiled

theorem tiled_lex (source : String) : Tiled 0 source (lex source) := by
  obtain ⟨kinds, cuts⟩ := Token.exists_cuts source.toList
  have tiled := cuts.tiled 0
  rwa [String.ofList_toList] at tiled

theorem Text.StandsAt.contents {source contents : String} {before after : String} {start stop : Nat}
    (whole : source = before ++ ("\"" ++ contents ++ "\"") ++ after)
    (starts : start = before.utf8ByteSize)
    (stops : stop = start + ("\"" ++ contents ++ "\"").utf8ByteSize) :
    StandsAt source (start + 1) (stop - 1) contents := by
  have quote : "\"".utf8ByteSize = 1 := rfl
  apply Text.standsAt_of_append (before ++ "\"") contents ("\"" ++ after)
  · rw [whole]
    simp only [String.append_assoc]
  · rw [starts, String.utf8ByteSize_append, quote]
  · rw [stops, String.utf8ByteSize_append, String.utf8ByteSize_append, quote]
    omega

/-- Of the tokens of a text the end marker is the last, at the end. Each other stands in the text at
its place, behind the one in front of it, and so do the contents of a string between its quotes. A
byte that no token covers belongs to white space. So the tokens give the text back, if the bytes
between them are put in. -/
theorem lexing_loses_nothing (source : String) :
    ∃ tokens, lex source = tokens ++ [⟨.eof, source.utf8ByteSize, source.utf8ByteSize⟩] ∧
      (∀ token ∈ tokens, token.kind ≠ .eof ∧ token.start < token.stop ∧
        StandsAt source token.start token.stop token.spelling ∧
        ∀ contents, token.kind = .string contents →
          StandsAt source (token.start + 1) (token.stop - 1) contents) ∧
      (lex source).Pairwise (fun one other => one.stop ≤ other.start) ∧
      (∀ byte < source.utf8ByteSize, (∀ token ∈ tokens, byte < token.start ∨ token.stop ≤ byte) →
        BlankAt source byte) ∧
      refill source.toUTF8 0 (lex source) = source.toUTF8 := by
  have tiled := tiled_lex source
  obtain ⟨tokens, proper, whole⟩ := tiled.ends
  rw [Nat.zero_add] at whole
  have front : "" ++ source = source := String.empty_append
  refine ⟨tokens, whole, ?_, tiled.ordered, ?_, ?_⟩
  · intro token here
    have other := proper token here
    have member : token ∈ lex source := whole ▸ List.mem_append_left _ here
    obtain ⟨nonempty, before, after, spelled, starts, stops⟩ :=
      @Tiled.found _ _ _ tiled "" rfl token member other
    rw [front] at spelled
    refine ⟨other, nonempty, Text.standsAt_of_append _ _ _ spelled starts stops, ?_⟩
    intro contents kind
    rw [Token.spelling, kind] at spelled stops
    exact Text.StandsAt.contents spelled starts stops
  · intro byte inside uncovered
    have found := @Tiled.blankAt _ _ _ tiled "" rfl byte (Nat.zero_le _) (by omega)
    rw [front] at found
    apply found
    intro token here
    rw [whole] at here
    rcases List.mem_append.1 here with here | last
    · exact uncovered token here
    · rw [List.mem_singleton.1 last]
      exact .inl inside
  · have filled := @Tiled.refill_eq _ _ _ tiled "" rfl
    rwa [front] at filled

theorem accented_stand_at_their_places :
    StandsAt "é \"b\" \"" 0 2 "é" ∧ StandsAt "é \"b\" \"" 4 5 "b" ∧
      StandsAt "é \"b\" \"" 7 8 "\"" ∧ BlankAt "é \"b\" \"" 2 := by
  have cut : lex "é \"b\" \"" = [⟨.illegal "é", 0, 2⟩, ⟨.string "b", 3, 6⟩] ++
      [⟨.illegal "\"", 7, 8⟩] ++ [⟨.eof, 8, 8⟩] := by decide +kernel
  obtain ⟨tokens, whole, standing, -, uncovered, -⟩ := lexing_loses_nothing "é \"b\" \""
  obtain ⟨rfl, -⟩ := List.append_inj' (whole.symm.trans cut) rfl
  refine ⟨(standing ⟨.illegal "é", 0, 2⟩ (by simp)).2.2.1, ?_, ?_, ?_⟩
  · exact (standing ⟨.string "b", 3, 6⟩ (by simp)).2.2.2 "b" rfl
  · exact (standing ⟨.illegal "\"", 7, 8⟩ (by simp)).2.2.1
  · exact uncovered 2 (by decide) (by decide)

end Monkey
