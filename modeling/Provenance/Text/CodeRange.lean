/-!
# Ranges of code points

Properties of characters that have no short rule are kept as lists of inclusive ranges of code
points.
-/

namespace Provenance.Text

/-- Inclusive ranges of code points. -/
abbrev CodeRanges := List (Nat × Nat)

/-- Whether a character lies in one of the ranges. -/
def CodeRanges.contains (ranges : CodeRanges) (c : Char) : Bool :=
  ranges.any fun r => decide (r.1 ≤ c.toNat) && decide (c.toNat ≤ r.2)

end Provenance.Text
