/-!
# Classes of characters given by ranges of code points

A class of the character database is a list of ranges, both ends included. Membership is decided by
comparing code points, so that a table serves programs and proofs alike.
-/

namespace FilterQuery.Text

/-- Consecutive code points from the first to the second, both included. -/
abbrev CodeRange := Nat × Nat

def CodeRange.contains (range : CodeRange) (code : Nat) : Bool :=
  decide (range.1 ≤ code) && decide (code ≤ range.2)

/-- Whether a character lies in one of the ranges. -/
def inRanges (ranges : List CodeRange) (c : Char) : Bool :=
  ranges.any fun range ↦ range.contains c.toNat

theorem inRanges_iff (ranges : List CodeRange) (c : Char) :
    inRanges ranges c = true ↔ ∃ range ∈ ranges, range.1 ≤ c.toNat ∧ c.toNat ≤ range.2 := by
  simp [inRanges, CodeRange.contains]

end FilterQuery.Text
