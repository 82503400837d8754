/-!
# Bisection

Where a condition holds up to some number and fails from there on, halving finds the place. One
search gives the last number that satisfies a condition which ends, the other the first number that
satisfies a condition which begins.

Both halve the interval that is left, so the number of questions is that of the binary digits of its
length, and the arc of a radius of 63 bits is cut at its diagonal in as many steps. Whether the
condition is of the right kind is not looked at. If it is not, the answer is some number of the
interval.
-/

namespace BrushScript.Arithmetic

/-- The last number from `lo` to `hi` that satisfies a condition which, once false, stays false;
`lo` is taken for granted. -/
def lastWhere (p : Nat → Bool) (lo hi : Nat) : Nat :=
  if lo < hi then
    let mid := hi - (hi - lo) / 2
    if p mid then lastWhere p mid hi else lastWhere p lo (mid - 1)
  else lo
termination_by hi - lo

/-- The first number from `lo` on and below `hi` that satisfies a condition which, once true, stays
true; `hi` if there is none. -/
def firstWhere (p : Nat → Bool) (lo hi : Nat) : Nat :=
  if lo < hi then
    let mid := lo + (hi - lo) / 2
    if p mid then firstWhere p lo mid else firstWhere p (mid + 1) hi
  else lo
termination_by hi - lo

end BrushScript.Arithmetic
