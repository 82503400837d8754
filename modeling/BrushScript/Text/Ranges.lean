/-!
# Character classes as tables of ranges

A character class beyond ASCII is a list of inclusive ranges of code points. `inRanges` asks the
list whether it holds a character, and `inRanges_iff` says what the answer means.

The ranges of a table are in ascending order, but nothing relies on that.
-/

namespace BrushScript.Text

/-- A character lies in one of the inclusive ranges of code points. -/
def inRanges (ranges : List (Nat × Nat)) (c : Char) : Bool :=
  ranges.any fun r => r.1 ≤ c.toNat && c.toNat ≤ r.2

theorem inRanges_iff {ranges : List (Nat × Nat)} {c : Char} :
    inRanges ranges c = true ↔ ∃ r ∈ ranges, r.1 ≤ c.toNat ∧ c.toNat ≤ r.2 := by
  simp [inRanges]

/-- A character of the seven-bit range. -/
def isAscii (c : Char) : Bool := c.toNat < 128

end BrushScript.Text
