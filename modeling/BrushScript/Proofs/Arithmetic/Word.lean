import BrushScript.Arithmetic.SquareRoot
import Mathlib.Algebra.Group.Nat.Defs

/-!
# Square roots in 128-bit words

The same way to a square root in words of 128 bits, where a sum, a difference or a product that is
no word gives nothing. Only a square may be too large for a word, in the walks: it is then too large
for the number as well. `gives_sqrtFrom` says that from a guess that leaves room above the number
nothing is missing, so that the words end where the numbers do.

`Gives o k` says of a computation that it has a result and that the result is the number `k`. It is
kept along every step: one lemma for each operation, under the condition that its result is a word
(`gives_add`, `gives_sub`, `gives_mul`), and `Gives.bind` for one computation after another. The
walks are recursions of their own in words, each by the distance that is left to go, and end after
the same steps as those in natural numbers.
-/

namespace BrushScript.Arithmetic

theorem walkDown_of_le {n s : Nat} (fits : s * s ≤ n) : walkDown n s = s := by
  cases s with
  | zero => rfl
  | succ s => rw [walkDown, if_pos fits]

theorem walkDown_of_lt {n s : Nat} (large : n < s * s) : walkDown n s = walkDown n (s - 1) := by
  cases s with
  | zero => rfl
  | succ s => rw [walkDown, if_neg (Nat.not_le_of_lt large), Nat.add_sub_cancel]

/-- An unsigned number of 128 bits. -/
abbrev Word := BitVec 128

namespace Word

variable {a b c n s : Word} {k l : Nat}

/-! ## Checked operations

An operation gives nothing exactly where the result on numbers is no word. Squares are only ever
compared, and a missing square counts as too large.
-/

/-- The sum, if it is a word. -/
def add? (a b : Word) : Option Word := if a.uaddOverflow b then none else some (a + b)

/-- The difference, if it is a word. -/
def sub? (a b : Word) : Option Word := if a.usubOverflow b then none else some (a - b)

/-- The product, if it is a word. -/
def mul? (a b : Word) : Option Word := if a.umulOverflow b then none else some (a * b)

theorem toNat_of_add? (sum : a.add? b = some c) : c.toNat = a.toNat + b.toNat := by
  rw [add?] at sum
  split at sum
  · cases sum
  · next room =>
    cases sum
    exact BitVec.toNat_add_of_not_uaddOverflow room

theorem toNat_of_sub? (difference : a.sub? b = some c) : c.toNat + b.toNat = a.toNat := by
  rw [sub?] at difference
  split at difference
  · cases difference
  · next room =>
    cases difference
    rw [BitVec.toNat_sub_of_not_usubOverflow room]
    simp only [BitVec.usubOverflow, decide_eq_true_eq] at room
    omega

/-- A computation gives a word, and a certain number. -/
def Gives (o : Option Word) (k : Nat) : Prop := ∃ w, o = some w ∧ w.toNat = k

theorem Gives.bind {o : Option Word} {f : Word → Option Word} (first : Gives o k)
    (next : ∀ w, w.toNat = k → Gives (f w) l) : Gives (o >>= f) l := by
  obtain ⟨w, rfl, value⟩ := first
  exact next w value

theorem gives_add (fits : a.toNat + b.toNat < 2 ^ 128) : Gives (a.add? b) (a.toNat + b.toNat) := by
  have room : ¬ a.uaddOverflow b := by simpa [BitVec.uaddOverflow] using fits
  exact ⟨a + b, if_neg room, BitVec.toNat_add_of_not_uaddOverflow room⟩

theorem gives_sub (le : b.toNat ≤ a.toNat) : Gives (a.sub? b) (a.toNat - b.toNat) := by
  have room : ¬ a.usubOverflow b := by simpa [BitVec.usubOverflow] using le
  exact ⟨a - b, if_neg room, BitVec.toNat_sub_of_not_usubOverflow room⟩

theorem gives_mul (fits : a.toNat * b.toNat < 2 ^ 128) : Gives (a.mul? b) (a.toNat * b.toNat) := by
  have room : ¬ a.umulOverflow b := by simpa [BitVec.umulOverflow] using fits
  exact ⟨a * b, if_neg room, BitVec.toNat_mul_of_not_umulOverflow room⟩

/-- A product is compared as a number, also if it is no word. -/
theorem any_mul?_iff : (a.mul? b).any (· ≤ n) = true ↔ a.toNat * b.toNat ≤ n.toNat := by
  by_cases fits : a.toNat * b.toNat < 2 ^ 128
  · obtain ⟨w, product, value⟩ := gives_mul fits
    rw [product, Option.any_some, decide_eq_true_eq, BitVec.le_def, value]
  · have large : a.umulOverflow b := by simpa [BitVec.umulOverflow] using fits
    have := n.isLt
    rw [mul?, if_pos large]
    simp only [Option.any_none, Bool.false_eq_true, false_iff]
    omega

/-! ## Roots

The averaging step is where room is needed. The walk down stops at zero, whose square is never too
large, and the walk up stops before the last word, since no number reaches the square of that.
-/

/-- The words down from a word, up to the first whose square is not too large. -/
def walkDown? (n s : Word) : Option Word :=
  if (s.mul? s).any (· ≤ n) then some s
  else
    match _ : s.sub? 1 with
    | some t => walkDown? n t
    | none => none
termination_by s.toNat
decreasing_by
  have value : t.toNat + 1 = s.toNat := toNat_of_sub? ‹s.sub? 1 = some t›
  omega

/-- The words up from a word, as long as the next square is not too large. -/
def walkUp? (n s : Word) : Option Word :=
  match _ : s.add? 1 with
  | some t => if (t.mul? t).any (· ≤ n) then walkUp? n t else some s
  | none => none
termination_by 2 ^ 128 - s.toNat
decreasing_by
  have value : t.toNat = s.toNat + 1 := toNat_of_add? ‹s.add? 1 = some t›
  have := t.isLt
  omega

/-- One averaging step, which leaves zero alone. -/
def average? (n s : Word) : Option Word :=
  if s = 0 then some 0
  else do
    let sum ← s.add? (n / s)
    return sum / 2

/-- The square root of `n` from any first guess. -/
def sqrtFrom? (guess n : Word) : Option Word := do
  let s ← average? n guess
  let s ← walkDown? n s
  walkUp? n s

theorem gives_walkDown (n s : Word) : Gives (walkDown? n s) (walkDown n.toNat s.toNat) := by
  fun_induction walkDown? n s with
  -- the walks stop at the same number
  | case1 s fits => exact ⟨s, rfl, (walkDown_of_le (any_mul?_iff.mp fits)).symm⟩
  | case2 s large t less ih => -- and they go on at the same number
    have value : t.toNat + 1 = s.toNat := toNat_of_sub? less
    rw [any_mul?_iff, Nat.not_le] at large
    rw [walkDown_of_lt large, ← value]
    exact ih
  | case3 s large nothing =>
    -- zero would not have been too large
    rw [any_mul?_iff, Nat.not_le] at large
    have positive : 0 < s.toNat := Nat.pos_of_ne_zero fun zero => by simp [zero] at large
    obtain ⟨t, less, -⟩ := gives_sub (a := s) (b := 1) positive
    cases nothing.symm.trans less

theorem gives_walkUp (fits : s.toNat * s.toNat ≤ n.toNat) :
    Gives (walkUp? n s) (walkUp n.toNat s.toNat) := by
  fun_induction walkUp? n s with
  | case1 s t more below ih =>
    have value : t.toNat = s.toNat + 1 := toNat_of_add? more
    rw [any_mul?_iff] at below
    have next := ih below
    rw [value] at below next
    rw [walkUp, if_pos below]
    exact next
  | case2 s t more above => -- the next square is larger
    have value : t.toNat = s.toNat + 1 := toNat_of_add? more
    rw [any_mul?_iff, value] at above
    exact ⟨s, rfl, by rw [walkUp, if_neg above]⟩
  | case3 s nothing =>
    -- the square of the greatest word is no word
    have small : s.toNat + 1 < 2 ^ 128 := by
      refine Nat.lt_of_not_le fun last => ?_
      have double : 2 * s.toNat ≤ s.toNat * s.toNat := Nat.mul_le_mul_right s.toNat (by omega)
      have := n.isLt
      omega
    obtain ⟨t, more, -⟩ := gives_add (a := s) (b := 1) small
    cases nothing.symm.trans more

theorem gives_average (room : s.toNat + n.toNat < 2 ^ 128) :
    Gives (average? n s) (average n.toNat s.toNat) := by
  rw [average?, average]
  by_cases zero : s = 0
  · -- zero is left alone
    have none : s.toNat = 0 := congrArg BitVec.toNat zero
    rw [if_pos zero, if_pos none]
    exact ⟨0, rfl, rfl⟩
  · -- the quotient is no greater than the number, so there is room for the sum
    have positive : s.toNat ≠ 0 := fun none => zero (BitVec.eq_of_toNat_eq none)
    have quotient : (n / s).toNat = n.toNat / s.toNat := BitVec.toNat_udiv
    have less : n.toNat / s.toNat ≤ n.toNat := Nat.div_le_self ..
    rw [if_neg zero, if_neg positive]
    refine (gives_add (by omega)).bind fun sum value => ⟨sum / 2, rfl, ?_⟩
    rw [BitVec.toNat_udiv, value, quotient]
    rfl

/-- From a guess with room above the number, words end where numbers do. -/
theorem gives_sqrtFrom {guess : Word} (room : guess.toNat + n.toNat < 2 ^ 128) :
    Gives (sqrtFrom? guess n) (sqrtFrom guess.toNat n.toNat) := by
  refine (gives_average room).bind fun s average => ?_
  refine (gives_walkDown n s).bind fun t down => ?_
  rw [sqrtFrom, ← average, ← down]
  exact gives_walkUp (down ▸ walkDown_sq_le ..)

end Word
end BrushScript.Arithmetic
