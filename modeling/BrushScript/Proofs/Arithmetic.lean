import BrushScript.Arithmetic.Bisection
import BrushScript.Arithmetic.SquareRoot
import Mathlib.Data.Nat.Sqrt

/-!
# Bisections and square roots find what they look for

Of a condition that stays true once it is true, `firstWhere` gives the place where it begins:
`firstWhere_le_iff`. Of one that stays false once it is false, `lastWhere` gives the place where it
ends: `le_lastWhere_iff`. The walks of `sqrt` end at the square root whatever they start from, so it
is the library's: `sqrt_eq`.

A bisection is characterised by comparing its answer with an arbitrary number, not by describing the
answer itself. Such an equivalence can be used by rewriting, it holds without a case for a condition
that never begins, and the proof needs no invariant beyond the bounds of the search: each half is
either searched further or lies wholly on one side of the answer.
-/

namespace BrushScript.Arithmetic

variable {p : Nat → Bool} {lo hi n : Nat}

/-- A condition that stays true once it is true. -/
def Rises (p : Nat → Bool) : Prop := ∀ ⦃a b⦄, a ≤ b → p a = true → p b = true

theorem le_firstWhere (p : Nat → Bool) (lo hi : Nat) : lo ≤ firstWhere p lo hi := by
  fun_induction firstWhere p lo hi with
  | case1 lo hi lt mid holds ih => exact ih
  | case2 lo hi lt mid fails ih => omega
  | case3 lo hi ended => exact Nat.le_refl lo

theorem firstWhere_le (p : Nat → Bool) (le : lo ≤ hi) : firstWhere p lo hi ≤ hi := by
  fun_induction firstWhere p lo hi with
  | case1 lo hi lt mid holds ih =>
    have := ih (by omega)
    omega
  | case2 lo hi lt mid fails ih => exact ih (by omega)
  | case3 lo hi ended => exact le

/-- The search ends at a number or before it exactly if the condition holds there. -/
theorem firstWhere_le_iff (rises : Rises p) (reached : lo ≤ n) (below : n < hi) :
    firstWhere p lo hi ≤ n ↔ p n = true := by
  fun_induction firstWhere p lo hi with
  | case1 lo hi lt mid holds ih =>
    by_cases left : n < mid
    · exact ih reached left
    · -- the search goes on before `mid`, where the condition holds already
      have here : p n = true := rises (by omega) holds
      have found : firstWhere p lo mid ≤ mid := firstWhere_le p (by omega)
      exact iff_of_true (by omega) here
  | case2 lo hi lt mid fails ih =>
    by_cases left : n ≤ mid
    · -- the search goes on behind `mid`, where the condition does not hold yet
      have here : p n ≠ true := fun holds => fails (rises left holds)
      have found : mid + 1 ≤ firstWhere p (mid + 1) hi := le_firstWhere ..
      exact iff_of_false (by omega) here
    · exact ih (by omega) below
  | case3 lo hi ended => omega

/-- A condition that stays false once it is false. -/
def Falls (p : Nat → Bool) : Prop := ∀ ⦃a b⦄, a ≤ b → p b = true → p a = true

theorem le_lastWhere (p : Nat → Bool) (lo hi : Nat) : lo ≤ lastWhere p lo hi := by
  fun_induction lastWhere p lo hi with
  | case1 lo hi lt mid holds ih => omega
  | case2 lo hi lt mid fails ih => exact ih
  | case3 lo hi ended => exact Nat.le_refl lo

theorem lastWhere_le (p : Nat → Bool) (le : lo ≤ hi) : lastWhere p lo hi ≤ hi := by
  fun_induction lastWhere p lo hi with
  | case1 lo hi lt mid holds ih => exact ih (by omega)
  | case2 lo hi lt mid fails ih =>
    have := ih (by omega)
    omega
  | case3 lo hi ended => exact le

/-- The search ends at a number or behind it exactly if the condition holds there. -/
theorem le_lastWhere_iff (falls : Falls p) (first : p lo = true) (reached : lo ≤ n)
    (below : n ≤ hi) : n ≤ lastWhere p lo hi ↔ p n = true := by
  fun_induction lastWhere p lo hi with
  | case1 lo hi lt mid holds ih =>
    by_cases right : mid ≤ n
    · exact ih holds right below
    · -- the search goes on from `mid`, up to where the condition holds
      have here : p n = true := falls (by omega) holds
      have found : mid ≤ lastWhere p mid hi := le_lastWhere ..
      exact iff_of_true (by omega) here
  | case2 lo hi lt mid fails ih =>
    by_cases right : mid ≤ n
    · -- the search goes on before `mid`, from where the condition does not hold any more
      have here : p n ≠ true := fun holds => fails (falls right holds)
      have found : lastWhere p lo (mid - 1) ≤ mid - 1 := lastWhere_le p (by omega)
      exact iff_of_false (by omega) here
    · exact ih first reached (by omega)
  | case3 lo hi ended =>
    have same : n = lo := by omega
    exact iff_of_true (by omega) (same ▸ first)

/-- The root that the walks end at is the exact one. -/
theorem sqrtFrom_eq (guess n : Nat) : sqrtFrom guess n = n.sqrt :=
  Nat.eq_sqrt.mpr ⟨sqrtFrom_sq_le guess n, lt_sqrtFrom_succ_sq guess n⟩

theorem sqrt_eq (n : Nat) : sqrt n = n.sqrt := sqrtFrom_eq ..

end BrushScript.Arithmetic
