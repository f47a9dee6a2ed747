/-! Tables of code points as closed ranges.

A property of characters is a list of closed ranges, ascending and apart, and a
character has the property when one of the ranges holds its code point
(`inRanges_iff`). -/
namespace TopicTables

/-- One of the closed ranges holds the code point. -/
def inRanges (ranges : List (Nat × Nat)) (n : Nat) : Bool :=
  ranges.any fun r => r.1 ≤ n && n ≤ r.2

theorem inRanges_iff (ranges : List (Nat × Nat)) (n : Nat) :
    inRanges ranges n = true ↔ ∃ r ∈ ranges, r.1 ≤ n ∧ n ≤ r.2 := by
  simp [inRanges]

end TopicTables
