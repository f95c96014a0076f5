import Monkey.Parse.Supply
import Monkey.Token.Tokenizer

/-!
Where a parser takes its tokens from: a list of them, or a tokenizer that is run as they are needed.
The end marker is an element like any other for these, and it is the tests made here that keep
readers from taking it.
-/
namespace Monkey

inductive TokenSource
  | list (tokens : List Token)
  | tokenizer (t : Tokenizer)
  deriving DecidableEq

namespace TokenSource

def pull? : TokenSource → Option (Token × TokenSource)
  | .list [] => none
  | .list (token :: rest) => some (token, .list rest)
  | .tokenizer t => t.next?.map fun (token, rest) => (token, .tokenizer rest)

def tokens : TokenSource → List Token
  | .list tokens => tokens
  | .tokenizer t => t.drain.1

def peek? (source : TokenSource) : Option Token :=
  (source.pull?.map Prod.fst).filter (·.kind ≠ .eof)

def next? (source : TokenSource) : Option (Token × TokenSource) :=
  source.pull?.filter (·.1.kind ≠ .eof)

def take? (kind : Token.Kind) (source : TokenSource) : Option TokenSource :=
  (source.pull?.filter (·.1.kind = kind)).map Prod.snd

def remaining : TokenSource → Nat
  | .list tokens => tokens.length
  | .tokenizer t => t.remaining

theorem remaining_pull?_lt {source rest : TokenSource} {token : Token}
    (pulled : source.pull? = some (token, rest)) : rest.remaining < source.remaining := by
  cases source with
  | list tokens =>
    cases tokens with
    | nil => contradiction
    | cons first others =>
      cases pulled
      exact Nat.lt_succ_self _
  | tokenizer t =>
    obtain ⟨⟨_, after⟩, step, same⟩ := Option.map_eq_some_iff.1 pulled
    cases same
    exact Tokenizer.remaining_next_lt step

theorem pull?_of_next? {source rest : TokenSource} {token : Token}
    (next : source.next? = some (token, rest)) : source.pull? = some (token, rest) :=
  (Option.filter_eq_some_iff.1 next).1

theorem pull?_of_take? {kind : Token.Kind} {source rest : TokenSource}
    (taken : source.take? kind = some rest) : ∃ token, source.pull? = some (token, rest) := by
  obtain ⟨⟨token, _⟩, filtered, rfl⟩ := Option.map_eq_some_iff.1 taken
  exact ⟨token, (Option.filter_eq_some_iff.1 filtered).1⟩

theorem peek?_eq_map_next? (source : TokenSource) :
    source.peek? = source.next?.map Prod.fst := by
  unfold peek? next?
  cases source.pull? with
  | none => rfl
  | some step => simp only [Option.map_some, Option.filter_some]; split <;> rfl

instance : Supply TokenSource where
  peek? := peek?
  next? := next?
  take? := take?
  size := remaining
  size_next? next := remaining_pull?_lt (pull?_of_next? next)
  size_take? taken := by
    obtain ⟨_, pulled⟩ := pull?_of_take? taken
    exact remaining_pull?_lt pulled
  peek?_eq := peek?_eq_map_next?

end TokenSource

end Monkey
