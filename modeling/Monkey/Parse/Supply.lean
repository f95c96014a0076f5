import Monkey.Token.Kind

/-!
What parsers read from. A supply has a token in front or is at its end. The token can be looked at or
taken, or taken if it is of a given kind only, and each of these makes its own test for the end.
-/
namespace Monkey

class Supply (σ : Type) where
  peek? : σ → Option Token
  next? : σ → Option (Token × σ)
  /-- What is left without the token in front, if that is of the given kind. -/
  take? : Token.Kind → σ → Option σ
  /-- Bounds the number of tokens that can be taken. -/
  size : σ → Nat
  size_next? {supply rest : σ} {token : Token} :
    next? supply = some (token, rest) → size rest < size supply
  size_take? {kind : Token.Kind} {supply rest : σ} :
    take? kind supply = some rest → size rest < size supply
  peek?_eq (supply : σ) : peek? supply = (next? supply).map Prod.fst

namespace Supply

variable {σ : Type} [Supply σ] {supply rest : σ} {token : Token}

def advance (supply : σ) : σ := ((next? supply).map Prod.snd).getD supply

theorem advance_of_next? (next : next? supply = some (token, rest)) : advance supply = rest := by
  rw [advance, next]
  rfl

theorem next?_of_peek? (seen : peek? supply = some token) :
    next? supply = some (token, advance supply) := by
  rw [peek?_eq] at seen
  obtain ⟨⟨_, rest⟩, next, rfl⟩ := Option.map_eq_some_iff.1 seen
  rw [next, advance_of_next? next]

theorem size_advance_lt (seen : peek? supply = some token) :
    size (advance supply) < size supply := size_next? (next?_of_peek? seen)

end Supply

end Monkey
