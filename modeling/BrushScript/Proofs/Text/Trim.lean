import BrushScript.Text.Blank
import Mathlib.Data.List.DropRight

/-!
# What trimming leaves

Trimming takes nothing but blank characters away, so what is left of a text is empty exactly if the
text is blank (`trim_eq_empty_iff`), and it takes all of them, so that trimming again changes
nothing (`trim_trim`).

Trimming is dropping at the front and then at the end, so a fact about it takes two steps. That the
second one does not uncover a blank at the front is `dropWhile_trimBlanks`: it leaves a part of the
text that begins with the same character.
-/

namespace BrushScript.Text

/-- A text of blank characters only. -/
def Blank (s : String) : Prop := ∀ c ∈ s.toList, isBlank c = true

instance (s : String) : Decidable (Blank s) := List.decidableBAll (isBlank · = true) s.toList

theorem trimBlanks_eq_rdropWhile (cs : List Char) :
    trimBlanks cs = (cs.dropWhile isBlank).rdropWhile isBlank := rfl

/-- What is left behind the blank characters at the front begins with one that is not blank. -/
theorem dropWhile_isBlank_getElem_zero {cs : List Char}
    (pos : 0 < (cs.dropWhile isBlank).length) : isBlank (cs.dropWhile isBlank)[0] = false :=
  Bool.eq_false_iff.mpr (List.dropWhile_get_zero_not isBlank cs pos)

theorem trimBlanks_eq_nil_iff {cs : List Char} :
    trimBlanks cs = [] ↔ ∀ c ∈ cs, isBlank c = true := by
  rw [trimBlanks_eq_rdropWhile, List.rdropWhile_eq_nil_iff]
  constructor
  · intro behind
    -- a character that stays at the front would be one of those that are dropped at the end
    rw [← List.dropWhile_eq_nil_iff]
    by_contra left
    have pos := List.length_pos_iff.mpr left
    have stays := dropWhile_isBlank_getElem_zero pos
    rw [behind _ (List.getElem_mem pos)] at stays
    cases stays
  · intro all c mem
    exact all c ((List.dropWhile_sublist isBlank).mem mem)

theorem trim_eq_empty_iff {s : String} : trim s = "" ↔ Blank s := by
  rw [← String.toList_inj, toList_trim]
  exact trimBlanks_eq_nil_iff

theorem dropWhile_trimBlanks (cs : List Char) :
    (trimBlanks cs).dropWhile isBlank = trimBlanks cs := by
  rw [List.dropWhile_eq_self_iff]
  intro pos
  -- if anything is left, its first character is the first one that is not blank
  obtain ⟨cut, whole⟩ := List.rdropWhile_prefix isBlank (cs.dropWhile isBlank)
  have longer : 0 < (cs.dropWhile isBlank).length := by
    rw [← whole, List.length_append]
    exact Nat.lt_add_right _ pos
  have first : (trimBlanks cs)[0] = (cs.dropWhile isBlank)[0] := by
    rw [List.getElem_of_eq whole.symm longer]
    exact (List.getElem_append_left pos).symm
  rw [first, dropWhile_isBlank_getElem_zero longer]
  exact nofun

theorem trimBlanks_trimBlanks (cs : List Char) : trimBlanks (trimBlanks cs) = trimBlanks cs := by
  rw [trimBlanks_eq_rdropWhile (trimBlanks cs), dropWhile_trimBlanks]
  exact List.rdropWhile_idempotent ..

@[simp] theorem trim_trim (s : String) : trim (trim s) = trim s := by
  apply String.toList_injective
  rw [toList_trim, toList_trim, trimBlanks_trimBlanks]

end BrushScript.Text
