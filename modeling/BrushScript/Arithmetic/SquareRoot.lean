/-!
# Integer square roots

`sqrt n` is the greatest number whose square is at most `n`. It comes from a guess, one averaging
step and two short walks, down while the square is too large and up while the next square still
fits. The walks make the answer right whatever the guess was, which is what `sqrtFrom_sq_le` and
`lt_sqrtFrom_succ_sq` say; a good guess only makes them short.

The guess comes from averaging as long as the number gets smaller, from a power of two above the
root. Nothing is asked of it, so any other one, such as a root in floating point, would do as well.
-/

namespace BrushScript.Arithmetic

/-- The greatest number up to `s` whose square is at most `n`. -/
def walkDown (n : Nat) : Nat → Nat
  | 0 => 0
  | s + 1 => if (s + 1) * (s + 1) ≤ n then s + 1 else walkDown n s

theorem walkDown_sq_le (n s : Nat) : walkDown n s * walkDown n s ≤ n := by
  induction s with
  | zero => simp [walkDown]
  | succ s ih =>
    rw [walkDown]
    split
    · assumption
    · exact ih

/-- The greatest number whose square is at most `n`, sought upwards from `s`. -/
def walkUp (n s : Nat) : Nat :=
  if (s + 1) * (s + 1) ≤ n then walkUp n (s + 1) else s
termination_by n - s
decreasing_by
  have : s + 1 ≤ (s + 1) * (s + 1) := Nat.le_mul_of_pos_left _ (by omega)
  omega

theorem walkUp_sq_le {n s : Nat} (h : s * s ≤ n) : walkUp n s * walkUp n s ≤ n := by
  fun_induction walkUp n s with
  | case1 s fits ih => exact ih fits
  | case2 s _ => exact h

theorem lt_walkUp_succ_sq (n s : Nat) : n < (walkUp n s + 1) * (walkUp n s + 1) := by
  fun_induction walkUp n s with
  | case1 s _ ih => exact ih
  | case2 s ends => omega

/-- One averaging step, which leaves zero alone. -/
def average (n s : Nat) : Nat := if s = 0 then 0 else (s + n / s) / 2

/-- The square root of `n` from any first guess. -/
def sqrtFrom (guess n : Nat) : Nat := walkUp n (walkDown n (average n guess))

theorem sqrtFrom_sq_le (guess n : Nat) : sqrtFrom guess n * sqrtFrom guess n ≤ n :=
  walkUp_sq_le (walkDown_sq_le ..)

theorem lt_sqrtFrom_succ_sq (guess n : Nat) :
    n < (sqrtFrom guess n + 1) * (sqrtFrom guess n + 1) :=
  lt_walkUp_succ_sq ..

/-- Averaging steps from above while they make the guess smaller. -/
def descend (n s : Nat) : Nat :=
  let t := average n s
  if t < s then descend n t else s
termination_by s

/-- A guess at the square root of `n`: a power of two above it, improved by averaging. -/
def sqrtGuess (n : Nat) : Nat := descend n (1 <<< (n.log2 / 2 + 1))

/-- The greatest number whose square is at most `n`. -/
def sqrt (n : Nat) : Nat := sqrtFrom (sqrtGuess n) n

end BrushScript.Arithmetic
