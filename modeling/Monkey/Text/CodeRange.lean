/-! Sets of characters given as intervals of code points. -/
namespace Monkey.Text

/-- Intervals of code points, both ends included. -/
abbrev CodeRanges := List (Nat × Nat)

def CodeRanges.contains (ranges : CodeRanges) (c : Char) : Bool :=
  ranges.any fun (first, last) => first ≤ c.toNat && c.toNat ≤ last

end Monkey.Text
