/-!
# Names without regard to case

Names of commands, queries and colours are compared with the case of ASCII letters set aside. Other
letters are not folded, so `É` and `é` stay apart. `caselessEq_iff` reduces the comparison to
equality of the lowered texts, where it is seen at once to be an equivalence.

Lowering changes no character that is not a capital of ASCII, so two texts that are equal in this
sense have the same length, in characters as in bytes.
-/

namespace BrushScript.Text

/-- The text with its ASCII capitals made small. -/
def lowered (s : String) : List Char := s.toList.map Char.toLower

/-- Two texts are equal up to the case of ASCII letters. -/
def caselessEq (s t : String) : Bool := lowered s == lowered t

theorem caselessEq_iff {s t : String} : caselessEq s t = true ↔ lowered s = lowered t := by
  simp [caselessEq]

@[simp] theorem caselessEq_refl (s : String) : caselessEq s s = true := by
  simp [caselessEq]

theorem caselessEq_trans {s t u : String} (h : caselessEq s t = true) (k : caselessEq t u = true) :
    caselessEq s u = true := by
  rw [caselessEq_iff] at *
  exact h.trans k

end BrushScript.Text
