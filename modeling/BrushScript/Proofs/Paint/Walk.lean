import BrushScript.Proofs.Paint.Arc

/-!
# The arc as a walk

The columns of a midpoint arc are given in closed form, by one square root for each row. They can
also be walked: row by row from the axis to the diagonal, with an error that says whether the next
row still has the same column. `visited_start` says that the walk visits the cells of the arc, in
their order. The invariant is `Walker.Follows`: with `x` the column of row `y`, the error is `x² - x
+ (y + 1)² - r²`, which is positive exactly if `x` is too far out for the row above. It never is so
by more than one column, and the walk leaves the arc where the arc crosses the diagonal.

`circleOutline_eq_walk` takes this to whole circles: an outline lists the reflections of the cells
that are walked, in strictly ascending order.

The walk is the usual way to draw such a circle, with additions only, and the closed form is what
can be asked for any row. The step lemma `Walker.Follows.step` connects them, and the induction of
`Walker.Follows.visited` goes along the walk, not along the rows: where the walk ends, the arc has
no more rows.
-/

namespace BrushScript.Paint

variable {radius x y : Nat}

/-! ## Columns from row to row

The two cases of a step, said of the closed form: the column of the next row is the same or one
less, and an inequality between squares tells which.
-/

/-- The arc begins at the radius. -/
theorem midpointColumn_zero (positive : 0 < radius) : midpointColumn radius 0 = radius := by
  refine eq_of_forall_lt_iff fun x => ?_
  have row : x * x + x + 0 * 0 = x * (x + 1) := by ring
  rw [lt_midpointColumn_iff (Nat.zero_le radius), row]
  constructor
  · intro inside
    by_contra far
    have beyond : radius * (radius + 1) ≤ x * (x + 1) := Nat.mul_le_mul (by omega) (by omega)
    rw [Nat.mul_succ] at beyond
    omega
  · intro near
    exact Nat.mul_le_mul (Nat.le_of_lt near) near

/-- The row above has the same column if that is not too far out for it. -/
theorem midpointColumn_kept (column : midpointColumn radius y = x + 1)
    (fits : x * x + x + (y + 1) * (y + 1) ≤ radius * radius) :
    y + 1 ≤ radius ∧ midpointColumn radius (y + 1) = x + 1 := by
  have above : y + 1 ≤ radius := Nat.mul_self_le_mul_self_iff.mp (by omega)
  have falls : midpointColumn radius (y + 1) ≤ midpointColumn radius y :=
    midpointColumn_antitone radius (Nat.le_succ y)
  have reaches := (lt_midpointColumn_iff above).mpr fits
  exact ⟨above, by omega⟩

/-- The row above is one column further in if not and the diagonal is not reached. -/
theorem midpointColumn_moved (le : y ≤ radius) (column : midpointColumn radius y = x + 1)
    (misses : radius * radius < x * x + x + (y + 1) * (y + 1)) (left : y + 1 ≤ x) :
    y + 1 ≤ radius ∧ midpointColumn radius (y + 1) = x := by
  have inside : x * x + x + y * y ≤ radius * radius := (lt_midpointColumn_iff le).mp (by omega)
  obtain ⟨above, reaches⟩ := le_midpointColumn_succ left inside
  have moves := lt_midpointColumn_iff (x := x) above
  exact ⟨above, by omega⟩

/-! ## Walking

A walker carries a cell and an error and knows nothing of the radius any more once it has started.
The walk goes on as long as the row is not past the column.
-/

/-- A cell on the way up an arc, and the error of the row above. -/
structure Walker where
  cell : Point
  error : Int

namespace Walker

/-- The walk starts on the axis. -/
def start (radius : Int) : Walker := ⟨⟨radius, 0⟩, 1 - radius⟩

/-- One row up, and one column in if the error is positive. -/
def step (w : Walker) : Walker :=
  let x := w.cell.x
  let y := w.cell.y + 1
  if w.error ≤ 0 then ⟨⟨x, y⟩, w.error + (2 * y + 1)⟩
  else ⟨⟨x - 1, y⟩, w.error + (2 * (y - (x - 1)) + 1)⟩

/-- The cells that are visited up to the diagonal. -/
def visited (w : Walker) : List Point :=
  if w.cell.y ≤ w.cell.x then w.cell :: w.step.visited else []
termination_by (w.cell.x + 1 - w.cell.y).toNat
decreasing_by
  simp only [step]
  split <;> dsimp only <;> omega

/-! ## The invariant

The fields of the invariant say where the walk is, what the error is worth there, and on which side
of the diagonal the arc has ended. A walk past the diagonal need not be on the arc any more, so its
column is claimed only before that.
-/

/-- The walk has come to a column and a row. It is on the arc there, or the arc has ended and the
walk is past the diagonal. -/
structure Follows (radius : Nat) (w : Walker) (x y : Nat) : Prop where
  cell : w.cell = ⟨x, y⟩
  error : w.error = x * x - x + (y + 1) * (y + 1) - radius * radius
  on_arc : y ≤ x → y ≤ (Octant.ofRadius radius).lastRow ∧ midpointColumn radius y = x
  past_arc : x < y → (Octant.ofRadius radius).lastRow < y

variable {w : Walker}

theorem follows_start (positive : 0 < radius) : Follows radius (start radius) radius 0 where
  cell := rfl
  error := by
    simp only [start]
    ring
  on_arc _ := ⟨Nat.zero_le _, midpointColumn_zero positive⟩
  past_arc := nofun

/-- A step goes up to the next row of the arc, or past the diagonal where the arc ends. -/
theorem Follows.step (ordinary : specialArc? radius = none) (here : Follows radius w x y)
    (before : y ≤ x) : ∃ x', Follows radius w.step x' (y + 1) := by
  obtain ⟨cell, error, on_arc, -⟩ := here
  obtain ⟨on, column⟩ := on_arc before
  have le := Nat.le_trans on (Octant.lastRow_le radius)
  have last {z : Nat} (le : z ≤ radius) := Octant.le_lastRow_midpoint ordinary le
  -- a column is at least one, so there is one to move in to
  obtain ⟨x, rfl⟩ : ∃ a, x = a + 1 := by
    refine Nat.exists_eq_add_one.mpr (column ▸ (lt_midpointColumn_iff le).mpr ?_)
    simpa using Nat.mul_le_mul le le
  -- the error compares the square of the row above with that of the radius
  have compared : w.error =
      ((x * x + x + (y + 1) * (y + 1) : Nat) : Int) - (radius * radius : Nat) := by
    rw [error]
    push_cast
    ring
  unfold Walker.step
  rw [cell]
  split
  · next keeps =>
    obtain ⟨above, kept⟩ := midpointColumn_kept column (by omega)
    refine ⟨x + 1, rfl, ?_, fun left => ⟨?_, kept⟩, fun past => ?_⟩
    · -- the error of the row above, if the column stays
      rw [error]
      push_cast
      ring
    · -- the next row is on the arc
      rw [last above]
      omega
    · -- the arc has ended
      have := last above
      omega
  · next moves =>
    have misses : radius * radius < x * x + x + (y + 1) * (y + 1) := by omega
    refine ⟨x, ?_, ?_, fun left => ?_, fun past => ?_⟩
    · -- the cell
      simp
    · -- the error of the row above, with a column less
      rw [error]
      push_cast
      ring
    · -- the next row is on the arc
      obtain ⟨above, moved⟩ := midpointColumn_moved le column misses left
      exact ⟨(last above).mpr (by omega), moved⟩
    · -- past the diagonal, the arc had no row there
      by_contra on'
      have above := Nat.le_trans (Nat.not_lt.mp on') (Octant.lastRow_le radius)
      have left := (last above).mp (Nat.not_lt.mp on')
      have := lt_midpointColumn_iff (x := x) above
      omega

/-- From a row on, the walk visits the cells of the arc. -/
theorem Follows.visited (ordinary : specialArc? radius = none) (here : Follows radius w x y) :
    w.visited = (List.range' y ((Octant.ofRadius radius).lastRow + 1 - y)).map fun z =>
      ⟨midpointColumn radius z, z⟩ := by
  -- the list grows at the front, so the invariant is taken along at every row
  fun_induction Walker.visited w generalizing x y with
  | case1 w before ih =>
    have before : y ≤ x := by simpa [here.cell] using before
    obtain ⟨on, column⟩ := here.on_arc before
    obtain ⟨x', next⟩ := here.step ordinary before
    have rows : (Octant.ofRadius radius).lastRow + 1 - y =
        (Octant.ofRadius radius).lastRow + 1 - (y + 1) + 1 := by omega
    rw [ih next, rows, List.range'_succ, List.map_cons, column, here.cell]
  | case2 w past => -- the walk is past the diagonal, where the arc has no rows left
    have past : x < y := by simpa [here.cell] using past
    rw [Nat.sub_eq_zero_of_le (here.past_arc past)]
    rfl

/-- The walk visits the cells of the arc, in their order. -/
theorem visited_start (positive : 0 < radius) (ordinary : specialArc? radius = none) :
    (start radius).visited = (Octant.ofRadius radius).cells := by
  have column (y : Nat) : (Octant.ofRadius radius).column y = midpointColumn radius y :=
    arcColumn_midpoint ordinary y
  rw [(follows_start positive).visited ordinary, Octant.cells, List.range_eq_range', Nat.sub_zero]
  simp only [column]

end Walker

/-! ## Whole outlines

The outline as a set of cells is the reflections of the arc, whoever found its cells; its order
comes from sorting. So the statement about the walk is all that was missing.
-/

/-- The outline of a midpoint circle lists, in strictly ascending order, the eight reflections of
the cells that are visited on the walk up the arc. -/
theorem circleOutline_eq_walk {radius : Int64} (positive : 1 ≤ radius.toInt)
    (ordinary : radius.toInt ≠ 3 ∧ radius.toInt ≠ 4) :
    (circleOutline radius.toInt).Pairwise Octant.Before ∧
      ∀ p, p ∈ circleOutline radius.toInt ↔
        ∃ d ∈ (Walker.start radius.toInt).visited, p ∈ Octant.reflections d := by
  have midpoint := specialArc?_eq_none ordinary
  have same : (radius.toInt.toNat : Int) = radius.toInt := Int.toNat_of_nonneg (by omega)
  have walked := @Walker.visited_start radius.toInt.toNat (by omega) midpoint
  rw [same] at walked
  rw [circleOutline, if_pos (by omega), walked]
  exact ⟨Octant.pairwise_outline _, fun _ => Octant.mem_outline_cells⟩

/-- The walk of a radius of five turns in once, and does not come to the diagonal. -/
theorem circleOutline_eq_walk_five :
    1 ≤ (5 : Int64).toInt ∧ ((5 : Int64).toInt ≠ 3 ∧ (5 : Int64).toInt ≠ 4) ∧
      (Walker.start (5 : Int64).toInt).visited = [⟨5, 0⟩, ⟨5, 1⟩, ⟨5, 2⟩, ⟨4, 3⟩] ∧
      ⟨-3, 4⟩ ∈ circleOutline (5 : Int64).toInt ∧ ⟨-4, 4⟩ ∉ circleOutline (5 : Int64).toInt := by
  have five : (5 : Int64).toInt = 5 := by decide
  have walked : (Walker.start (5 : Int64).toInt).visited =
      [⟨5, 0⟩, ⟨5, 1⟩, ⟨5, 2⟩, ⟨4, 3⟩] := by
    simp [five, Walker.start, Walker.visited, Walker.step]
  obtain ⟨-, outline⟩ := @circleOutline_eq_walk 5 (by decide) (by decide)
  refine ⟨by decide, by decide, walked, ?_, ?_⟩
  · rw [outline, walked]
    decide
  · rw [outline, walked]
    decide

end BrushScript.Paint
