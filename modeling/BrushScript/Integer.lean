/-!
# Integers of 64 bits

Numbers of a script are 64-bit integers. Exact results are computed in `Int`; `ofInt?` brings them
back and refuses what does not fit, `saturate` brings them back by stopping at the ends of the
range. `ofInt?_eq_some_iff` says that nothing else happens to the value.

The values of a script are refused where they do not fit, since a wrong number would be worse than a
fault. Coordinates of what is painted are brought back by stopping, since what lies beyond the range
lies beyond every canvas.
-/

namespace BrushScript.Integer

/-- The least 64-bit integer. -/
def least : Int := -0x8000000000000000

/-- The greatest 64-bit integer. -/
def greatest : Int := 0x7fffffffffffffff

/-- A number lies in the 64-bit range. -/
def Fits (n : Int) : Prop := least ≤ n ∧ n ≤ greatest

instance (n : Int) : Decidable (Fits n) := inferInstanceAs (Decidable (_ ∧ _))

/-- The 64-bit integer of a value, if it has one. -/
def ofInt? (n : Int) : Option Int64 := if Fits n then some (Int64.ofInt n) else none

/-- The nearest value of the 64-bit range. -/
def saturate (n : Int) : Int := max least (min greatest n)

/-! ## Decimal notation -/

/-- The number that a non-empty list of digits writes. -/
def ofDigits? (cs : List Char) : Option Nat :=
  if cs ≠ [] ∧ cs.all Char.isDigit then
    some (cs.foldl (fun n c => 10 * n + (c.toNat - '0'.toNat)) 0)
  else none

/-- The number without a minus sign that a text writes; a plus sign may stand before its digits. -/
def natural? (s : String) : Option Nat :=
  match s.toList with
  | '+' :: digits => ofDigits? digits
  | digits => ofDigits? digits

/-- The 64-bit integer that a text writes, with or without a sign before its digits. -/
def decimal? (s : String) : Option Int64 :=
  match s.toList with
  | '-' :: digits => (ofDigits? digits).bind fun n => ofInt? (-n)
  | _ => (natural? s).bind fun n => ofInt? n

/-! ## Range -/

theorem toInt_ofInt {n : Int} (h : Fits n) : (Int64.ofInt n).toInt = n := by
  simp only [Fits, least, greatest] at h
  exact Int64.toInt_ofInt_of_le (by omega) (by omega)

theorem fits_toInt (n : Int64) : Fits n.toInt := by
  have h := n.le_toInt
  have k := n.toInt_lt
  simp only [Fits, least, greatest]
  omega

theorem ofInt?_eq_some_iff {n : Int} {m : Int64} : ofInt? n = some m ↔ m.toInt = n := by
  unfold ofInt?
  constructor
  · intro h
    split at h
    · next fits =>
      cases h
      exact toInt_ofInt fits
    · cases h
  · rintro rfl
    simp [fits_toInt]

theorem saturate_of_fits {n : Int} (h : Fits n) : saturate n = n := by
  simp only [Fits, saturate] at *
  omega

end BrushScript.Integer
