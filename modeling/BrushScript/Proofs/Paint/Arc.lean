import BrushScript.Proofs.Paint.Octant
import Mathlib.Tactic.Ring

/-!
# The cells of a midpoint circle

In a row `y` the columns inside the midpoint arc of radius `r` are those with `x² + x + y² ≤ r²`
(`lt_midpointColumn_iff`), and the arc goes up to the last row that is not past the diagonal
(`Octant.le_lastRow_iff`). The eight reflections of a cell are the cells whose greater distance from
the axes is the column and whose lesser one is the row (`mem_reflections`). So a cell lies on the
outline exactly if its greater distance is the column of its lesser one: `mem_outline_midpoint`.

The inequality is `(x + 1/2)² + y² < r² + 1/2` without fractions: a column is inside as long as the
middle between it and the next one is not outside the circle. Everything about the shape of the arc
is derived from it and from the fact that the columns never grow, never from the root again.

Two radii have their columns in a table. For them the bounds on rows and columns are checked by
evaluation (`natAbs_arcColumn_le`, `half_le_arcColumn`, `arcColumn_self_le`), so that
`Octant.arc_test_exact` holds of all radii, and the characterisation of the outline of the others.
-/

namespace BrushScript.Paint

variable {radius x y : Nat}

/-! ## Columns

Where the arc passes in a row: bounds on its columns from both sides. Each of them turns a statement
about a column into one about squares.
-/

theorem lt_midpointColumn_iff (le : y ≤ radius) :
    x < midpointColumn radius y ↔ x * x + x + y * y ≤ radius * radius := by
  have squares : y * y ≤ radius * radius := Nat.mul_le_mul le le
  -- twice the column and one is at most the root exactly if its square fits
  have half (n : Nat) : x < (n + 1) / 2 ↔ 2 * x + 1 ≤ n := by omega
  have square : (2 * x + 1) * (2 * x + 1) = 4 * (x * x) + 4 * x + 1 := by ring
  simp only [midpointColumn, Arithmetic.sqrt_eq, Nat.min_eq_left le, half, Nat.le_sqrt, square,
    Nat.mul_assoc]
  omega

/-- One row up, the arc is at most one column further in. -/
theorem le_midpointColumn_succ {a b : Nat} (le : b + 1 ≤ a)
    (inside : a * a + a + b * b ≤ radius * radius) :
    b + 1 ≤ radius ∧ a ≤ midpointColumn radius (b + 1) := by
  have sum : a * a ≤ radius * radius := by omega
  have row : b + 1 ≤ radius := Nat.le_trans le (Nat.mul_self_le_mul_self_iff.mp sum)
  obtain ⟨x, rfl⟩ := Nat.exists_eq_add_of_le' (Nat.le_trans (Nat.le_add_left 1 b) le)
  refine ⟨row, (lt_midpointColumn_iff row).mpr ?_⟩
  -- the square of the row grows by less than the column has room for, as the row is not past the
  -- column
  calc x * x + x + (b + 1) * (b + 1)
      = x * x + b * b + (x + 2 * b + 1) := by ring
    _ ≤ x * x + b * b + (3 * x + 2) := by omega
    _ = (x + 1) * (x + 1) + (x + 1) + b * b := by ring
    _ ≤ radius * radius := inside

/-- The arc stays within the radius; that of radius zero has a column of one. -/
theorem midpointColumn_le (le : y ≤ radius) : midpointColumn radius y ≤ max radius 1 := by
  by_contra past
  have inside := (lt_midpointColumn_iff le).mp (Nat.not_le.mp past)
  have squares := Nat.mul_self_le_mul_self (Nat.le_max_left radius 1)
  omega

/-- In the row of half the radius the arc has not come to the diagonal. -/
theorem half_le_midpointColumn (radius : Nat) :
    radius / 2 ≤ midpointColumn radius (radius / 2) := by
  cases half : radius / 2 with
  | zero => exact Nat.zero_le _
  | succ x =>
    have le : 2 * (x + 1) ≤ radius := by omega
    refine (lt_midpointColumn_iff (by omega)).mpr ?_
    calc x * x + x + (x + 1) * (x + 1)
        ≤ x * x + x + (x + 1) * (x + 1) + (2 * (x * x) + 5 * x + 3) := Nat.le_add_right ..
      _ = 2 * (x + 1) * (2 * (x + 1)) := by ring
      _ ≤ radius * radius := Nat.mul_le_mul le le

theorem specialArc?_eq_none {radius : Int} (ordinary : radius ≠ 3 ∧ radius ≠ 4) :
    specialArc? radius.toNat = none :=
  (specialArc?_eq_none_or radius.toNat).resolve_right (by omega)

/-- No column of an arc is further out than the radius, those past its end included. -/
theorem natAbs_arcColumn_le (le : y ≤ radius) : (arcColumn radius y).natAbs ≤ max radius 1 := by
  have listed {columns : List Int} {most : Nat} (all : ∀ x ∈ columns, x.natAbs ≤ max most 1) :
      (columns[y]?.getD (-1)).natAbs ≤ max most 1 := by
    cases found : columns[y]? with
    | none => exact Nat.le_max_right ..
    | some x => exact all x (List.mem_of_getElem? found)
  rcases specialArc?_eq_none_or radius with ordinary | rfl | rfl
  · rw [arcColumn_midpoint ordinary]
    exact midpointColumn_le le
  · exact listed (show ∀ x ∈ ([3, 2] : List Int), x.natAbs ≤ max 3 1 by decide)
  · exact listed (show ∀ x ∈ ([4, 4, 3] : List Int), x.natAbs ≤ max 4 1 by decide)

/-- In the row of half the radius no arc has come to the diagonal. -/
theorem half_le_arcColumn (radius : Nat) :
    ((radius / 2 : Nat) : Int) ≤ arcColumn radius (radius / 2) := by
  rcases specialArc?_eq_none_or radius with ordinary | rfl | rfl
  · rw [arcColumn_midpoint ordinary, Int.ofNat_le]
    exact half_le_midpointColumn radius
  · decide
  · decide

/-- In the row of the radius all arcs have come to the axis. -/
theorem arcColumn_self_le (radius : Nat) : arcColumn radius radius ≤ 1 := by
  rcases specialArc?_eq_none_or radius with ordinary | rfl | rfl
  · rw [arcColumn_midpoint ordinary]
    by_contra past
    have inside := (lt_midpointColumn_iff (x := 1) (Nat.le_refl radius)).mp (by omega)
    omega
  · decide
  · decide

/-! ## The last row

The last row is found by a bisection, for which the diagonal has to be crossed only once: going up,
the column falls and the row rises.
-/

namespace Octant

theorem lastRow_le (radius : Nat) : (ofRadius radius).lastRow ≤ radius :=
  Arithmetic.lastWhere_le _ (Nat.zero_le radius)

/-- The arc goes up to the diagonal. -/
theorem le_lastRow_iff (le : y ≤ radius) :
    y ≤ (ofRadius radius).lastRow ↔ (y : Int) ≤ arcColumn radius y := by
  have falls : Arithmetic.Falls fun y => decide ((y : Int) ≤ arcColumn radius y) := by
    intro a b le below
    have := arcColumn_antitone radius le
    simp only [decide_eq_true_eq] at below ⊢
    omega
  have first : ((0 : Nat) : Int) ≤ arcColumn radius 0 := by
    have := half_le_arcColumn radius
    have := arcColumn_antitone radius (Nat.zero_le (radius / 2))
    omega
  have found := Arithmetic.le_lastWhere_iff falls (decide_eq_true first) (Nat.zero_le y) le
  rw [decide_eq_true_eq] at found
  exact found

theorem le_lastRow_midpoint (ordinary : specialArc? radius = none) (le : y ≤ radius) :
    y ≤ (ofRadius radius).lastRow ↔ y ≤ midpointColumn radius y := by
  rw [le_lastRow_iff le, arcColumn_midpoint ordinary, Int.ofNat_le]

/-- An arc goes up to half its radius at least. -/
theorem radius_le_lastRow (radius : Nat) : radius ≤ 2 * (ofRadius radius).lastRow + 1 := by
  have below := (le_lastRow_iff (Nat.div_le_self radius 2)).mpr (half_le_arcColumn radius)
  omega

/-- But for the two smallest circles, an arc ends before the row of its radius. -/
theorem lastRow_lt (large : 2 ≤ radius) : (ofRadius radius).lastRow < radius := by
  refine Nat.lt_of_not_le fun up => ?_
  have below := (le_lastRow_iff (Nat.le_refl radius)).mp up
  have axis := arcColumn_self_le radius
  omega

/-- The arc of a 64-bit radius is what its test takes it for. Of the rows up to the radius, those up
to the last one are the rows that are not past the diagonal; the columns never grow on the way; and
a box, one with its ends the wrong way round included, is hit exactly if a cell of the arc lies in
it. The row after the last one and all columns are 64-bit integers. -/
theorem arc_test_exact (radius : Int64) :
    let arc : Octant := ofRadius radius.toInt.toNat
    (∀ y : Nat, y ≤ arc.lastRow ↔ y ≤ radius.toInt.toNat ∧ (y : Int) ≤ arc.column y) ∧
    (∀ y z : Nat, y ≤ z → z ≤ arc.lastRow → arc.column z ≤ arc.column y) ∧
    (∀ x₁ x₂ y₁ y₂ : Int, arc.hits ⟨⟨x₁, x₂⟩, ⟨y₁, y₂⟩⟩ ↔
      ∃ y : Nat, y ≤ arc.lastRow ∧ (y₁ ≤ y ∧ y ≤ y₂) ∧ x₁ ≤ arc.column y ∧ arc.column y ≤ x₂) ∧
    Integer.Fits (arc.lastRow + 1) ∧
    ∀ y : Nat, y ≤ radius.toInt.toNat → Integer.Fits (arc.column y) := by
  intro arc
  have most : max radius.toInt.toNat 1 ≤ 0x7fffffffffffffff := by
    have := radius.toInt_lt
    omega
  have within : arc.lastRow ≤ radius.toInt.toNat := lastRow_le _
  refine ⟨fun y => ?_, fun y z le _ => arc.column_antitone le, fun x₁ x₂ y₁ y₂ => ?_, ?_,
    fun y le => ?_⟩
  · -- the last row: where the bisection ends
    constructor
    · intro on
      have le := Nat.le_trans on within
      exact ⟨le, (le_lastRow_iff le).mp on⟩
    · rintro ⟨le, below⟩
      exact (le_lastRow_iff le).mpr below
  · -- the test of a box
    rw [hits_iff]
    exact exists_congr fun y => and_congr_right fun _ => and_comm
  · -- the row after the last one is no further up than the radius, but for radii of zero and one
    have before : 2 ≤ radius.toInt.toNat → arc.lastRow < radius.toInt.toNat := lastRow_lt
    simp only [Integer.Fits, Integer.least, Integer.greatest]
    omega
  · -- columns stay within the radius
    have column : (arc.column y).natAbs ≤ max radius.toInt.toNat 1 := natAbs_arcColumn_le le
    simp only [Integer.Fits, Integer.least, Integer.greatest]
    omega

/-- The outline stays within the radius. -/
theorem outline_bounds {d : Point} (mem : d ∈ (ofRadius radius).outline) :
    d.x.natAbs ≤ max radius 1 ∧ d.y.natAbs ≤ max radius 1 := by
  obtain ⟨y, le, reflected⟩ := mem_outline.mp mem
  have row := Nat.le_trans le (lastRow_le radius)
  have column : ((ofRadius radius).column y).natAbs ≤ max radius 1 := natAbs_arcColumn_le row
  simp only [reflections, List.mem_cons, List.not_mem_nil, or_false] at reflected
  -- every reflection has the column and the row for its distances, in one order or the other
  rcases reflected with rfl | rfl | rfl | rfl | rfl | rfl | rfl | rfl <;> dsimp only <;> omega

end Octant

/-! ## Reflections

The eight reflections forget the signs of a cell's coordinates and which of the two is greater. What
they keep are the two distances from the axes.
-/

/-- The greater of the distances of a cell from the axes. -/
def far (d : Point) : Nat := max d.x.natAbs d.y.natAbs

/-- The lesser of the distances of a cell from the axes. -/
def near (d : Point) : Nat := min d.x.natAbs d.y.natAbs

theorem near_le_far (d : Point) : near d ≤ far d := by
  simp only [near, far]
  omega

theorem mem_reflections {d : Point} (le : y ≤ x) :
    d ∈ Octant.reflections ⟨x, y⟩ ↔ far d = x ∧ near d = y := by
  obtain ⟨u, v⟩ := d
  simp only [Octant.reflections, List.mem_cons, List.not_mem_nil, or_false, Point.mk.injEq, far,
    near]
  omega

/-- A cell lies on the outline of a midpoint circle exactly if its greater distance from the axes is
the column of the lesser one. -/
theorem mem_outline_midpoint (ordinary : specialArc? radius = none) {d : Point} :
    d ∈ (Octant.ofRadius radius).outline ↔
      near d ≤ radius ∧ far d = midpointColumn radius (near d) := by
  have last {y : Nat} (le : y ≤ radius) := Octant.le_lastRow_midpoint ordinary le
  have column (y : Nat) : (Octant.ofRadius radius).column y = midpointColumn radius y :=
    arcColumn_midpoint ordinary y
  simp only [Octant.mem_outline, column]
  constructor
  · -- from the arc to the cell: the row of the arc is the lesser distance
    rintro ⟨y, above, mem⟩
    have le := Nat.le_trans above (Octant.lastRow_le radius)
    obtain ⟨same, rfl⟩ := (mem_reflections ((last le).mp above)).mp mem
    exact ⟨le, same⟩
  · -- from the cell to the arc: its lesser distance is a row that is not past the diagonal
    rintro ⟨le, same⟩
    have below : near d ≤ midpointColumn radius (near d) := same ▸ near_le_far d
    exact ⟨near d, (last le).mpr below, (mem_reflections below).mpr ⟨same, rfl⟩⟩

end BrushScript.Paint
