import BrushScript.Text.Caseless
import BrushScript.Text.Numeric
import BrushScript.Text.Blank

/-!
# Letters of ASCII

Characters that differ in case only are the same or both letters of ASCII
(`eq_or_isAlpha_of_toLower`). Such a letter is as good as any other one wherever a script is cut
into words: it is no digit and no blank, it has one byte, and it may begin and continue a name.

This is what a keyword may be written in any case for. The classes of characters come from tables of
ranges, and the letters of ASCII are compared with them as numbers.
-/

namespace BrushScript.Text

variable {c d : Char}

theorem isAlpha_iff :
    c.isAlpha = true ↔ 65 ≤ c.toNat ∧ c.toNat ≤ 90 ∨ 97 ≤ c.toNat ∧ c.toNat ≤ 122 := by
  have upper : c.isUpper = true ↔ 65 ≤ c.toNat ∧ c.toNat ≤ 90 := decide_eq_true_iff
  have lower : c.isLower = true ↔ 97 ≤ c.toNat ∧ c.toNat ≤ 122 :=
    Bool.and_eq_true_iff.trans (and_congr decide_eq_true_iff decide_eq_true_iff)
  exact Bool.or_eq_true_iff.trans (or_congr upper lower)

theorem toNat_toLower (c : Char) :
    c.toLower.toNat = if 65 ≤ c.toNat ∧ c.toNat ≤ 90 then c.toNat + 32 else c.toNat := by
  unfold Char.toLower
  split
  · next upper =>
    have bounds : 65 ≤ c.toNat ∧ c.toNat ≤ 90 := upper
    have small : c.val.toNat ≤ 90 := bounds.2
    have step : (32 : UInt32).toNat = 32 := rfl
    rw [if_pos bounds]
    show (c.val + 32).toNat = c.val.toNat + 32
    rw [UInt32.toNat_add]
    omega
  · next other => exact (if_neg other).symm

/-- Characters that differ in case only are the same or both letters. -/
theorem eq_or_isAlpha_of_toLower (same : c.toLower = d.toLower) :
    c = d ∨ c.isAlpha = true ∧ d.isAlpha = true := by
  have values := congrArg Char.toNat same
  rw [toNat_toLower, toNat_toLower] at values
  rw [isAlpha_iff, isAlpha_iff, ← Char.toNat_inj]
  -- the lower-case forms are the same in all four cases of which of the two are capitals
  split at values <;> split at values <;> omega

theorem ne_of_isAlpha (letter : c.isAlpha = true) (other : d.isAlpha = false) : c ≠ d := by
  rintro rfl
  cases letter.symm.trans other

section

variable (letter : c.isAlpha = true)

include letter

theorem isBlank_of_isAlpha : isBlank c = false := by
  rw [isAlpha_iff] at letter
  rw [← Bool.not_eq_true, isBlank, inRanges_iff]
  rintro ⟨r, mem, low, high⟩
  simp only [blankRanges, List.mem_cons, List.not_mem_nil, or_false] at mem
  rcases mem with rfl | rfl | rfl | rfl | rfl | rfl | rfl | rfl | rfl | rfl <;>
    dsimp only at low high <;> omega

theorem isDigit_of_isAlpha : c.isDigit = false := by
  rw [isAlpha_iff] at letter
  rw [← Bool.not_eq_true]
  intro digit
  have high : c.toNat ≤ 57 := decide_eq_true_iff.mp (Bool.and_eq_true_iff.mp digit).2
  omega

theorem isAlphabetic_of_isAlpha : isAlphabetic c = true := by
  have ascii : isAscii c = true := by
    rw [isAlpha_iff] at letter
    rw [isAscii, decide_eq_true_iff]
    omega
  rw [isAlphabetic_of_isAscii ascii]
  exact letter

theorem isAlphanumeric_of_isAlpha : isAlphanumeric c = true := by
  rw [isAlphanumeric, isAlphabetic_of_isAlpha letter]
  rfl

theorem utf8Size_of_isAlpha : c.utf8Size = 1 := by
  rw [isAlpha_iff] at letter
  rw [Char.utf8Size_eq_one_iff, UInt32.le_iff_toNat_le]
  show c.toNat ≤ 127
  omega

end

end BrushScript.Text
