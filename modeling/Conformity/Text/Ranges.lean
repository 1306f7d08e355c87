/-!
# Sets of characters given by code ranges

A property of characters is written down as a list of closed ranges of code points. `inRanges`
asks whether a code lies in one of them; the tables themselves stand in the modules named for the
property.
-/

namespace Conformity.Text

/-- Does `n` lie in one of the closed ranges? -/
def inRanges (n : Nat) (ranges : List (Nat × Nat)) : Bool :=
  ranges.any fun r => decide (r.1 ≤ n) && decide (n ≤ r.2)

theorem inRanges_iff {n : Nat} {ranges : List (Nat × Nat)} :
    inRanges n ranges = true ↔ ∃ r ∈ ranges, r.1 ≤ n ∧ n ≤ r.2 := by
  simp [inRanges]

end Conformity.Text
