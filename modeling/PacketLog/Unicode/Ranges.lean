/-
Sets of code points, given as lists of closed ranges.
-/
namespace PacketLog.Unicode

/-- Whether a code point lies in one of the ranges `(first, last)`. -/
def inRanges (ranges : List (Nat × Nat)) (n : Nat) : Bool :=
  ranges.any fun r => r.1 ≤ n && n ≤ r.2

/-- A code point is in a list of ranges exactly when one of them has it. -/
theorem inRanges_iff {ranges : List (Nat × Nat)} {n : Nat} :
    inRanges ranges n = true ↔ ∃ r ∈ ranges, r.1 ≤ n ∧ n ≤ r.2 := by
  simp [inRanges]

end PacketLog.Unicode
