import BrushScript.Proofs.Machine.Arithmetic
import Mathlib.Algebra.Order.Field.Power
import Mathlib.Algebra.Ring.Int.Parity
import Mathlib.Data.Rat.Floor

/-!
# Powers are exact

What a power of two integers is, for every exponent: a rational number, which is an integer as long
as the exponent is not negative. `power_exact` says that the machine gives this number without its
fraction, that it overflows only if the number is out of range, and that it divides by zero only for
a negative power of zero.

The machine looks at the bases `1`, `-1` and `0` by themselves. The powers of any other base leave
the range from the exponent 64 on (`not_fits_pow`), and have nothing in front of the fraction for
negative exponents (`towardsZero_zpow_of_neg`).

The exact power `exactPower` has the cases of mathematics: whether the exponent is negative, whether
the base is zero, whether the power fits. The machine has its own, chosen so that it never
multiplies more than 63 times. For each of its cases there is a lemma that says what the exact power
is there, and the theorem goes through them in its order.
-/

namespace BrushScript.Value

/-- A rational number without its fraction. -/
def towardsZero (q : ℚ) : ℤ := if 0 ≤ q then ⌊q⌋ else ⌈q⌉

theorem towardsZero_intCast (n : ℤ) : towardsZero n = n := by
  unfold towardsZero
  split
  · exact Int.floor_intCast n
  · exact Int.ceil_intCast n

theorem towardsZero_eq_zero {q : ℚ} (small : |q| < 1) : towardsZero q = 0 := by
  obtain ⟨low, high⟩ := abs_lt.mp small
  unfold towardsZero
  split
  · next nonneg => exact Int.floor_eq_zero_iff.mpr ⟨nonneg, high⟩
  · next negative => exact Int.ceil_eq_zero_iff.mpr ⟨low, (not_le.mp negative).le⟩

/-! ## Bases that are neither `1` nor `-1` nor `0`

For such a base the absolute value doubles at least from one exponent to the next. Both lemmas use
no more of it than that.
-/

section

variable {base : ℤ} (large : 2 ≤ |base|)

include large

/-- A negative power is smaller than one. -/
theorem towardsZero_zpow_of_neg {exponent : ℤ} (negative : exponent < 0) :
    towardsZero ((base : ℚ) ^ exponent) = 0 := by
  apply towardsZero_eq_zero
  have exceeds : (1 : ℚ) < |(base : ℚ)| := by
    rw [← Int.cast_abs]
    exact_mod_cast (show (1 : ℤ) < |base| by omega)
  rw [abs_zpow]
  exact zpow_lt_one_of_neg₀ exceeds negative

/-- A power with a great exponent does not fit. -/
theorem not_fits_pow {exponent : ℕ} (great : 64 ≤ exponent) :
    ¬ Integer.Fits (base ^ exponent) := by
  have far : (2 : ℤ) ^ 64 ≤ |base ^ exponent| :=
    calc (2 : ℤ) ^ 64 ≤ |base| ^ 64 := pow_le_pow_left₀ (by decide) large 64
      _ ≤ |base| ^ exponent := pow_le_pow_right₀ (by omega) great
      _ = |base ^ exponent| := (abs_pow base exponent).symm
  intro fits
  have near : |base ^ exponent| ≤ 2 ^ 63 := by
    unfold Integer.Fits Integer.least Integer.greatest at fits
    exact abs_le.mpr ⟨by omega, by omega⟩
  omega

end

/-! ## All powers

The three bases of their own have powers that can be told without multiplying: one, one with a sign,
and zero except for the exponent zero.
-/

/-- The exact power without its fraction, as far as it exists and fits. -/
def exactPower (base exponent : ℤ) : Except Fault ℤ :=
  if 0 ≤ exponent then
    if Integer.Fits (base ^ exponent.toNat) then .ok (base ^ exponent.toNat)
    else .error (.overflow (.binary .pow))
  else if base = 0 then .error .divisionByZero
  else .ok (towardsZero ((base : ℚ) ^ exponent))

/-- A power that is an integer whatever the exponent. -/
theorem exactPower_of_zpow {base exponent n : ℤ} (nonzero : base ≠ 0)
    (power : (base : ℚ) ^ exponent = n) (fits : Integer.Fits n) :
    exactPower base exponent = .ok n := by
  unfold exactPower
  split
  · next nonneg =>
    have natural : base ^ exponent.toNat = n := by
      rw [← Int.toNat_of_nonneg nonneg, zpow_natCast] at power
      exact_mod_cast power
    rw [natural, if_pos fits]
  · rw [power, towardsZero_intCast]

theorem exactPower_one (exponent : ℤ) : exactPower 1 exponent = .ok 1 :=
  exactPower_of_zpow (by decide) (by simp) (by decide)

theorem exactPower_neg_one (exponent : ℤ) :
    exactPower (-1) exponent = .ok (if exponent % 2 = 0 then 1 else -1) := by
  split
  -- the parity decides the sign, for negative exponents as well
  · next even =>
    refine exactPower_of_zpow (by decide) ?_ (by decide)
    rw [Int.cast_neg, Int.cast_one, (Int.even_iff.mpr even).neg_one_zpow]
  · next odd =>
    refine exactPower_of_zpow (by decide) ?_ (by decide)
    have odd : Odd exponent := Int.odd_iff.mpr (by omega)
    rw [Int.cast_neg, Int.cast_one, odd.neg_one_zpow]

theorem exactPower_zero (exponent : ℤ) :
    exactPower 0 exponent =
      if exponent < 0 then .error .divisionByZero else .ok (if exponent = 0 then 1 else 0) := by
  unfold exactPower
  by_cases negative : exponent < 0
  · rw [if_neg (by omega), if_pos rfl, if_pos negative]
  · rw [if_pos (by omega), if_neg negative]
    by_cases zero : exponent = 0
    · subst zero
      rfl
    · rw [zero_pow (by omega), if_neg zero]
      rfl

theorem exactPower_of_large {base : ℤ} (large : 2 ≤ |base|) (exponent : ℤ) :
    exactPower base exponent =
      if exponent < 0 then .ok 0
      else if 64 ≤ exponent then .error (.overflow (.binary .pow))
      else if Integer.Fits (base ^ exponent.toNat) then .ok (base ^ exponent.toNat)
      else .error (.overflow (.binary .pow)) := by
  have nonzero : base ≠ 0 := by
    rintro rfl
    exact absurd large (by decide)
  unfold exactPower
  by_cases negative : exponent < 0
  · rw [if_neg (by omega), if_neg nonzero, if_pos negative, towardsZero_zpow_of_neg large negative]
  · rw [if_pos (by omega), if_neg negative]
    by_cases great : 64 ≤ exponent
    · rw [if_pos great, if_neg (not_fits_pow large (by omega))]
    · rw [if_neg great]

/-- An integer that is neither `1` nor `-1` nor `0` has an absolute value of two at least. -/
theorem two_le_abs_toInt {base : Int64} (one : base ≠ 1) (minusOne : base ≠ -1)
    (zero : base ≠ 0) : 2 ≤ |base.toInt| := by
  have ne (n : Int64) (other : base ≠ n) : base.toInt ≠ n.toInt := mt Int64.toInt_inj.mp other
  have one : base.toInt ≠ 1 := ne 1 one
  have minusOne : base.toInt ≠ -1 := ne (-1) minusOne
  have zero : base.toInt ≠ 0 := ne 0 zero
  rw [le_abs']
  omega

/-- A power is the exact one without its fraction. It overflows only if that is out of range, and
divides by zero only if the base is zero and the exponent negative. -/
theorem power_exact (base exponent : Int64) :
    (power base exponent).map Int64.toInt = exactPower base.toInt exponent.toInt := by
  have negative : exponent < 0 ↔ exponent.toInt < 0 := Int64.lt_iff_toInt_lt
  have zero : exponent = 0 ↔ exponent.toInt = 0 := Int64.toInt_inj.symm
  unfold power
  by_cases one : base = 1
  · subst one
    exact (exactPower_one _).symm
  -- the bases with powers of their own are out of the way, and then the exponents
  rw [if_neg one]
  by_cases minusOne : base = -1
  · subst minusOne
    rw [if_pos rfl, show (-1 : Int64).toInt = -1 from rfl, exactPower_neg_one]
    split <;> rfl
  rw [if_neg minusOne]
  by_cases nothing : base = 0
  · subst nothing
    rw [if_pos rfl, show (0 : Int64).toInt = 0 from rfl, exactPower_zero]
    simp only [negative, zero]
    split
    · rfl
    · split <;> rfl
  rw [if_neg nothing, exactPower_of_large (two_le_abs_toInt one minusOne nothing)]
  simp only [negative]
  split
  · rfl
  split
  · rfl
  · show (ofInt _ (base.toInt ^ exponent.toInt.toNat)).map _ = _
    rw [ofInt_eq]
    split
    · next fits => exact congrArg Except.ok (Integer.toInt_ofInt fits)
    · rfl

end BrushScript.Value
