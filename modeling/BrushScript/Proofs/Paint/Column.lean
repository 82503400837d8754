import BrushScript.Proofs.Arithmetic.Word
import BrushScript.Proofs.Paint.Arc
import Mathlib.Order.Bounds.Basic

/-!
# The columns of an arc in words

The column of a midpoint arc is the greatest number `x` with `(2x - 1)² ≤ 4r² - 4y² + 1`:
`isGreatest_midpointColumn`. For a radius of 64 bits, the number under the root nearly fills a word
of 128 bits, but it stays far enough from the end that neither it nor the root overflows, whatever
guess the root starts from (`gives_midpointColumn`). `midpointColumn_in_words` puts this together.

The room that is needed is that of the one sum in an averaging step, the guess plus a quotient of
the number. With `r < 2 ^ 63` the number is at most `2 ^ 128 - 2 ^ 66 + 5` (`quadruple_le`), which
leaves room for every guess up to `2 ^ 64`. A guess that is computed in floating point is such a
guess, however far off it may be, so nothing else needs to be known about it.

Every computation in words is paired with the one in natural numbers by `Gives`, which says that
there is a result and what it is worth. The two are never compared at any other place.
-/

namespace BrushScript.Paint

open Arithmetic (Word)
open Arithmetic.Word

variable {radius y : Nat}

/-! ## The greatest column

The column in closed form is half of the root and one, rounded down. That makes it the greatest with
its inequality, and the root the greatest of its own.
-/

theorem isGreatest_midpointColumn (le : y ≤ radius) :
    IsGreatest {k : Int | (2 * k - 1) ^ 2 ≤ 4 * (radius : Int) ^ 2 - 4 * (y : Int) ^ 2 + 1}
      (midpointColumn radius y) := by
  have inside (x : Nat) : (2 * ((x + 1 : Nat) : Int) - 1) ^ 2 ≤
      4 * (radius : Int) ^ 2 - 4 * (y : Int) ^ 2 + 1 ↔ x < midpointColumn radius y := by
    have square : (2 * ((x + 1 : Nat) : Int) - 1) ^ 2 = 4 * ((x * x + x : Nat) : Int) + 1 := by
      push_cast
      ring
    rw [lt_midpointColumn_iff le, square, sq, sq]
    omega
  constructor
  · -- the column itself fits: it is positive, and the one before it is inside
    have positive : 0 < midpointColumn radius y :=
      (lt_midpointColumn_iff le).mpr (by simpa using Nat.mul_le_mul le le)
    obtain ⟨x, column⟩ := Nat.exists_eq_add_one.mpr positive
    rw [column]
    exact (inside x).mpr (by omega)
  · -- a number past it would be a column inside
    intro k mem
    by_contra past
    obtain ⟨x, rfl⟩ : ∃ x : Nat, k = (x + 1 : Nat) := ⟨(k - 1).toNat, by omega⟩
    have := (inside x).mp mem
    omega

/-- The number under the root as an integer: the difference of the squares is not cut off. -/
theorem cast_radicand {radius y : Int} (low : 0 ≤ y) (high : y ≤ radius) :
    ((4 * radius.toNat * radius.toNat - 4 * y.toNat * y.toNat + 1 : Nat) : Int) =
      4 * radius ^ 2 - 4 * y ^ 2 + 1 := by
  have le : y.toNat ≤ radius.toNat := Int.toNat_le_toNat high
  have squares := Nat.mul_le_mul (Nat.mul_le_mul_left 4 le) le
  rw [Nat.cast_add, Nat.cast_sub squares]
  simp only [Nat.cast_mul, Int.toNat_of_nonneg low, Int.toNat_of_nonneg (Int.le_trans low high)]
  push_cast
  ring

/-- From every guess, the root is the greatest number whose square is not larger. -/
theorem isGreatest_sqrtFrom (guess n : Nat) :
    IsGreatest {k : Nat | k * k ≤ n} (Arithmetic.sqrtFrom guess n) := by
  rw [Arithmetic.sqrtFrom_eq]
  exact ⟨Nat.sqrt_le n, fun _ fits => Nat.le_sqrt.mpr fits⟩

/-! ## In words

The same formula with checked operations, one after the other. A negative difference would give
nothing, but rows past the radius are taken as the last.
-/

/-- The absolute value of a 64-bit integer. -/
def magnitude (n : Int64) : Word := BitVec.ofNat 128 n.toInt.natAbs

/-- Four times a square. -/
def quadruple? (a : Word) : Option Word := do
  let fourfold ← (4 : Word).mul? a
  fourfold.mul? a

/-- The number under the root; a row past the radius is as the last. -/
def radicand? (radius y : Word) : Option Word := do
  let outer ← quadruple? radius
  let inner ← quadruple? (if y ≤ radius then y else radius)
  let rest ← outer.sub? inner
  rest.add? 1

/-- The column of the midpoint arc of a radius in a row, its root sought from a guess. -/
def midpointColumn? (guess radius y : Word) : Option Word := do
  let n ← radicand? radius y
  let s ← sqrtFrom? guess n
  let next ← s.add? 1
  return next / 2

theorem toNat_magnitude {n : Int64} (low : 0 ≤ n.toInt) :
    (magnitude n).toNat = n.toInt.toNat ∧ n.toInt.toNat < 2 ^ 63 := by
  have := n.toInt_lt
  rw [magnitude, BitVec.toNat_ofNat, Nat.mod_eq_of_lt] <;> omega

/-- The square of a number of 63 bits, four times, is far from the end of the words. -/
theorem quadruple_le {n : Nat} (small : n < 2 ^ 63) : 4 * n * n ≤ 2 ^ 128 - 2 ^ 66 + 4 :=
  Nat.mul_le_mul (show 4 * n ≤ 4 * (2 ^ 63 - 1) by omega) (show n ≤ 2 ^ 63 - 1 by omega)

theorem gives_quadruple {a : Word} (small : a.toNat < 2 ^ 63) :
    Gives (quadruple? a) (4 * a.toNat * a.toNat) := by
  have square := quadruple_le small
  refine (gives_mul (a := 4) (show 4 * a.toNat < 2 ^ 128 by omega)).bind fun fourfold value => ?_
  have value : fourfold.toNat = 4 * a.toNat := value
  rw [← value] at square ⊢
  exact gives_mul (by omega)

theorem gives_radicand {radius y : Word} (small : radius.toNat < 2 ^ 63)
    (le : y.toNat ≤ radius.toNat) :
    Gives (radicand? radius y)
      (4 * radius.toNat * radius.toNat - 4 * y.toNat * y.toNat + 1) := by
  have square := quadruple_le small
  have squares : 4 * y.toNat * y.toNat ≤ 4 * radius.toNat * radius.toNat :=
    Nat.mul_le_mul (Nat.mul_le_mul_left 4 le) le
  rw [radicand?, if_pos (BitVec.le_def.mpr le)]
  refine (gives_quadruple small).bind fun outer first => ?_
  refine (gives_quadruple (Nat.lt_of_le_of_lt le small)).bind fun inner second => ?_
  -- the differences and sums that follow are small, as both squares are
  refine (gives_sub (by omega)).bind fun rest difference => ?_
  rw [← first, ← second, ← difference]
  exact gives_add (b := 1) (show rest.toNat + 1 < 2 ^ 128 by omega)

theorem gives_midpointColumn {guess radius y : Word} (near : guess.toNat ≤ 2 ^ 64)
    (small : radius.toNat < 2 ^ 63) (le : y.toNat ≤ radius.toNat) :
    Gives (midpointColumn? guess radius y) (midpointColumn radius.toNat y.toNat) := by
  have square := quadruple_le small
  refine (gives_radicand small le).bind fun n number => ?_
  refine (gives_sqrtFrom (by omega)).bind fun s root => ?_
  rw [Arithmetic.sqrtFrom_eq] at root
  have := Nat.sqrt_le_self n.toNat
  refine (gives_add (b := 1) (show s.toNat + 1 < 2 ^ 128 by omega)).bind fun next value => ?_
  refine ⟨next / 2, rfl, ?_⟩
  rw [midpointColumn, Nat.min_eq_left le, Arithmetic.sqrt_eq, ← number, ← root, BitVec.toNat_udiv,
    value]
  rfl

/-! ## For all radii

From words back to integers, and from the formula to the arcs that are not listed.
-/

/-- For a radius of 64 bits and a row up to it, the number under the root is computed without
leaving the words. From every guess up to `2 ^ 64` so is the root, which is the greatest number
whose square is not larger, and the column of the midpoint arc. The column is the greatest that fits
under the root, and a 64-bit integer. It is that of all arcs that are not listed. -/
theorem midpointColumn_in_words {radius y : Int64} (positive : 1 ≤ radius.toInt)
    (low : 0 ≤ y.toInt) (high : y.toInt ≤ radius.toInt) :
    let column := midpointColumn radius.toInt.toNat y.toInt.toNat
    ∃ n : Word, radicand? (magnitude radius) (magnitude y) = some n ∧
      (n.toNat : Int) = 4 * radius.toInt ^ 2 - 4 * y.toInt ^ 2 + 1 ∧
      (∀ guess : Word, guess.toNat ≤ 2 ^ 64 →
        (∃ s, sqrtFrom? guess n = some s ∧
          s.toNat = Arithmetic.sqrtFrom guess.toNat n.toNat ∧
          IsGreatest {k : Nat | k * k ≤ n.toNat} s.toNat) ∧
        ∃ x, midpointColumn? guess (magnitude radius) (magnitude y) = some x ∧ x.toNat = column) ∧
      IsGreatest {k : Int | (2 * k - 1) ^ 2 ≤ n.toNat} column ∧
      Integer.Fits column ∧
      (radius.toInt ≠ 3 ∧ radius.toInt ≠ 4 →
        arcColumn radius.toInt.toNat y.toInt.toNat = column) := by
  intro column
  obtain ⟨sameRadius, small⟩ := toNat_magnitude (n := radius) (by omega)
  obtain ⟨sameRow, -⟩ := toNat_magnitude low
  have le : y.toInt.toNat ≤ radius.toInt.toNat := by omega
  have smallWord : (magnitude radius).toNat < 2 ^ 63 := sameRadius ▸ small
  have leWord : (magnitude y).toNat ≤ (magnitude radius).toNat := by rwa [sameRadius, sameRow]
  have greatest := isGreatest_midpointColumn le
  obtain ⟨n, radicand, number⟩ := gives_radicand smallWord leWord
  rw [sameRadius, sameRow] at number
  have value := (congrArg Nat.cast number).trans (cast_radicand low high)
  refine ⟨n, radicand, value, fun guess near => ⟨?_, ?_⟩, ?_, ?_, fun ordinary => ?_⟩
  · -- the root
    have square := quadruple_le small
    obtain ⟨s, root, same⟩ := gives_sqrtFrom (show guess.toNat + n.toNat < 2 ^ 128 by omega)
    exact ⟨s, root, same, same ▸ isGreatest_sqrtFrom _ _⟩
  · -- the column in words
    have found := gives_midpointColumn near smallWord leWord
    rwa [sameRadius, sameRow] at found
  · -- the greatest number
    rwa [Int.toNat_of_nonneg low, Int.toNat_of_nonneg (Int.le_trans low high), ← value] at greatest
  · -- the column fits
    have within : column ≤ max radius.toInt.toNat 1 := midpointColumn_le le
    simp only [Integer.Fits, Integer.least, Integer.greatest]
    omega
  · exact arcColumn_midpoint (specialArc?_eq_none ordinary) _

/-- On the axis, the arc of the greatest radius takes the greatest number under a root, and a guess
of one goes far past the root. -/
theorem midpointColumn_in_words_widest :
    let widest : Int64 := 9223372036854775807
    1 ≤ widest.toInt ∧ 0 ≤ (0 : Int64).toInt ∧ (0 : Int64).toInt ≤ widest.toInt ∧
      (∃ n, radicand? (magnitude widest) (magnitude 0) = some n ∧ n.toNat = 2 ^ 128 - 2 ^ 66 + 5) ∧
      ∃ x, midpointColumn? 1 (magnitude widest) (magnitude 0) = some x ∧
        x.toNat = 9223372036854775807 := by
  intro widest
  obtain ⟨n, radicand, number, found, ⟨-, most⟩, ⟨-, fits⟩, -⟩ :=
    @midpointColumn_in_words widest 0 (by decide) (by decide) (by decide)
  obtain ⟨-, x, column, value⟩ := found 1 (by decide)
  have number : (n.toNat : Int) = 2 ^ 128 - 2 ^ 66 + 5 := number.trans (by decide)
  have least : 9223372036854775807 ≤ ((midpointColumn widest.toInt.toNat _ : Nat) : Int) :=
    most (by rw [Set.mem_ofPred_eq, number]; decide)
  simp only [Integer.greatest] at fits
  exact ⟨by decide, by decide, by decide, ⟨n, radicand, by omega⟩, x, column, by omega⟩

end BrushScript.Paint
