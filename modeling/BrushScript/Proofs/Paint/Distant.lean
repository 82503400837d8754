import BrushScript.Proofs.Paint.Border
import BrushScript.Proofs.Paint.Circle
import BrushScript.Proofs.Paint.Walk

/-!
# Drawing around a centre off the canvas

Circles and rectangles can be drawn around any cell with 64-bit coordinates. Sums that stop at the
ends of the 64-bit range show only around a centre near the least one. There a pixel is looked for
where it is seen from the centre, at a distance that is cut off (`pixel?_circle_seen`), and a
rectangle whose top left corner would be out of range is moved on as a whole
(`pixel?_rectangle_settled`). `drawn_around_any_cell` says what is painted around any cell, and when
that is what the brush covers in integers without bounds: for circles, at all pixels whose distance
from the centre is a 64-bit integer, and everywhere if the outline does not come so far; for
rectangles, if the corner is in range, and if what is moved does not come to the canvas.

Neither condition can be left out. `drawn_around_far_cell` is a circle and a rectangle around the
least coordinate of which a pixel is painted that the brush does not cover: the circle is a column
short, and the rectangle is moved on by half its width. `drawn_around_any_cell_beside` is a centre
at half that distance, where both are drawn as they should be.
-/

namespace BrushScript.Paint

variable {c : Canvas} {center q : Point} {color : Color}

/-! ## Circles

A circle around a far centre is covered at a pixel if it is covered where the pixel is seen. The two
places differ only for pixels further away than the greatest 64-bit integer.
-/

/-- An outline that does not come as far as distances are cut off is covered from the same cells. -/
theorem exists_covers_seenFrom_iff {radius size : Int}
    (short : max radius 1 + reach size < Integer.greatest) (center q : Point) :
    (∃ p ∈ cellsAround center (circleOutline radius), Covers size p (seenFrom center q)) ↔
      ∃ p ∈ cellsAround center (circleOutline radius), Covers size p q := by
  rw [exists_mem_cellsAround, exists_mem_cellsAround]
  refine exists_congr fun d => and_congr_right fun mem => ?_
  have bounds : d.x.natAbs ≤ max radius 1 ∧ d.y.natAbs ≤ max radius 1 := by
    unfold circleOutline at mem
    split at mem
    · have := Octant.outline_bounds mem
      omega
    · cases mem
  simp only [Integer.greatest] at short
  simp only [Covers, seenFrom, Integer.greatest]
  omega

/-- A circle paints the pixels that the brush covers from some cell of its outline where they are
seen from the centre, and no others. -/
theorem pixel?_circle_seen (paints : color ≠ .clear) (fits : center.Fits) (c : Canvas)
    (radius size : Int64) (q : Point) :
    (circle c center radius.toInt size.toInt color).pixel? q =
      if c.Contains q ∧ ∃ p ∈ cellsAround center (circleOutline radius.toInt),
        Covers size.toInt p (seenFrom center q) then some color else c.pixel? q := by
  by_cases positive : 0 < radius.toInt
  · have draws : ¬ (color = .clear ∨ radius.toInt ≤ 0) := not_or.mpr ⟨paints, by omega⟩
    rw [circle, if_neg draws]
    dsimp only
    split
    · next short =>
      -- an outline that is stamped is too short for distances to be cut off
      have few := c.side_lt
      have half := Octant.radius_le_lastRow radius.toInt.toNat
      have reached := reach_bounds size
      have near : max radius.toInt 1 + reach size.toInt < Integer.greatest := by
        rw [Integer.greatest]
        omega
      have outline : circleOutline radius.toInt = (Octant.ofRadius radius.toInt.toNat).outline :=
        if_pos positive
      rw [← outline, stampOutline_eq_cellsAround, pixel?_stampAll paints]
      simp only [exists_covers_seenFrom_iff near]
    · rw [pixel?_paintWithinReach fits, circleOutline, if_pos positive]
  · simp [circle, circleOutline, positive, cellsAround, show radius.toInt ≤ 0 by omega]

/-- An outline has a cell straight to the right of the centre. -/
theorem mem_circleOutline_right {radius : Int} (positive : 0 < radius)
    (ordinary : radius ≠ 3 ∧ radius ≠ 4) : ⟨radius, 0⟩ ∈ circleOutline radius := by
  rw [circleOutline, if_pos positive, mem_outline_midpoint (specialArc?_eq_none ordinary)]
  have axis : near ⟨radius, 0⟩ = 0 := by
    simp only [near]
    omega
  rw [axis, midpointColumn_zero (by omega), far]
  dsimp only
  omega

/-! ## Rectangles

A rectangle that is moved on ends where it would not have ended. That is no matter if both it and
the one it should have been stay clear of the canvas.
-/

/-- A border that ends so far to the left of the canvas or above it is covered from nowhere. -/
theorem not_covers_border {b : Box} {size : Int} (on : c.Contains q)
    (away : b.columns.hi + reach size < 0 ∨ b.rows.hi + reach size < 0) :
    ¬ ∃ p ∈ borderCells b, Covers size p q := by
  rintro ⟨p, mem, covers⟩
  obtain ⟨left, -, top, -⟩ := on
  simp only [borderCells, List.mem_filter, Box.mem_cells, Box.mem_def, Interval.mem_def] at mem
  simp only [Covers] at covers
  omega

/-- On one axis, an extent around a centre begins within the 64-bit range, or does not come to the
canvas, wherever it begins. -/
def Settles (center extent size : Int) : Prop :=
  Integer.least ≤ center - extent.tdiv 2 ∨ extent + reach size ≤ -Integer.least

/-- If the extents of a rectangle settle, the brush covers the same pixels from its border as from
that of the rectangle moved on. -/
theorem exists_covers_settled_iff {width height size : Int} (on : c.Contains q)
    (wide : Settles center.x width size) (high : Settles center.y height size) :
    (∃ p ∈ borderCells (frame (settled center width height) width height), Covers size p q) ↔
      ∃ p ∈ borderCells (frame center width height), Covers size p q := by
  by_cases within : Integer.least ≤ center.x - width.tdiv 2 ∧
      Integer.least ≤ center.y - height.tdiv 2
  · rw [settled, settle_eq within.1, settle_eq within.2]
  · -- otherwise neither of the two borders comes to the canvas
    simp only [Settles, Integer.least] at wide high within
    refine iff_of_false (not_covers_border on ?_) (not_covers_border on ?_)
    · -- the rectangle that was moved on begins at the least integer
      simp only [frame, settled, settle, Integer.least]
      omega
    · -- the one in its place ends even before that
      simp only [frame]
      omega

/-! ## Any centre

Both drawings at once, first as they are and then under the condition that makes them right.
-/

/-- What a circle and a rectangle paint around any cell with 64-bit coordinates. -/
theorem drawn_around_any_cell (paints : color ≠ .clear) (c : Canvas)
    (x y radius width height size : Int64) (q : Point) :
    let center : Point := ⟨x.toInt, y.toInt⟩
    let outline := cellsAround center (circleOutline radius.toInt)
    let circled := circle c center radius.toInt size.toInt color
    let border := borderCells (frame center width.toInt height.toInt)
    let moved := borderCells
      (frame (settled center width.toInt height.toInt) width.toInt height.toInt)
    let framed := rectangle c center width.toInt height.toInt size.toInt color
    (circled.pixel? q = if c.Contains q ∧ ∃ p ∈ outline, Covers size.toInt p (seenFrom center q)
      then some color else c.pixel? q) ∧
    (framed.pixel? q = if c.Contains q ∧ ∃ p ∈ moved, Covers size.toInt p q
      then some color else c.pixel? q) ∧
    (q.x ≤ center.x + Integer.greatest ∧ q.y ≤ center.y + Integer.greatest ∨
        radius.toInt + reach size.toInt < Integer.greatest →
      circled.pixel? q = if c.Contains q ∧ ∃ p ∈ outline, Covers size.toInt p q
        then some color else c.pixel? q) ∧
    (Settles center.x width.toInt size.toInt → Settles center.y height.toInt size.toInt →
      framed.pixel? q = if c.Contains q ∧ ∃ p ∈ border, Covers size.toInt p q
        then some color else c.pixel? q) := by
  intro center outline circled border moved framed
  have fits : center.Fits := ⟨Integer.fits_toInt x, Integer.fits_toInt y⟩
  have round := pixel?_circle_seen paints fits c radius size q
  have straight : framed.pixel? q = if c.Contains q ∧ ∃ p ∈ moved, Covers size.toInt p q
      then some color else c.pixel? q := by
    by_cases flat : width.toInt ≤ 0 ∨ height.toInt ≤ 0
    · simp [framed, moved, rectangle, flat, borderCells_frame_eq_nil flat]
    · exact pixel?_rectangle_settled paints fits c size (by omega) (by omega) q
  refine ⟨round, straight, fun near => ?_, fun wide high => ?_⟩
  · -- circles
    have same : (∃ p ∈ outline, Covers size.toInt p (seenFrom center q)) ↔
        ∃ p ∈ outline, Covers size.toInt p q := by
      rcases near with ⟨right, below⟩ | short
      · rw [seenFrom_eq right below]
      · have reached := reach_bounds size
        refine exists_covers_seenFrom_iff ?_ center q
        rw [Integer.greatest] at short ⊢
        omega
    rw [round]
    simp only [outline] at same
    simp only [same, outline]
  · -- rectangles
    have same := and_congr_right fun on : c.Contains q =>
      exists_covers_settled_iff on wide high
    rw [straight]
    simp only [moved, border, same]

/-- A circle and a rectangle to the left of a canvas, both of which the brush reaches from. -/
theorem drawn_around_any_cell_beside :
    let c := Canvas.filled 10 .white
    let center : Point := ⟨(-4611686018427387904 : Int64).toInt, (5 : Int64).toInt⟩
    let circled := circle c center (4611686018427387903 : Int64).toInt (3 : Int64).toInt .black
    let framed := rectangle c center (9223372036854775807 : Int64).toInt (3 : Int64).toInt
      (3 : Int64).toInt .black
    Color.black ≠ .clear ∧ ¬ c.Contains center ∧
      circled.pixel? ⟨0, 5⟩ = some .black ∧ circled.pixel? ⟨1, 5⟩ = some .white ∧
      framed.pixel? ⟨0, 5⟩ = some .black ∧ framed.pixel? ⟨1, 5⟩ = some .white := by
  intro c center circled framed
  have paints : Color.black ≠ .clear := by decide
  have column : center.x = -4611686018427387904 := by decide
  have row : center.y = 5 := by decide
  have radius : (4611686018427387903 : Int64).toInt = 4611686018427387903 := by decide
  have width : (9223372036854775807 : Int64).toInt = 9223372036854775807 := by decide
  have reached : reach (3 : Int64).toInt = 1 := by decide
  have painted := drawn_around_any_cell paints c (-4611686018427387904) 5 4611686018427387903
    9223372036854775807 3 3
  obtain ⟨-, -, circled₀, framed₀⟩ := painted ⟨0, 5⟩
  obtain ⟨-, -, circled₁, framed₁⟩ := painted ⟨1, 5⟩
  have wide : Settles center.x (9223372036854775807 : Int64).toInt (3 : Int64).toInt := by
    rw [column, width]
    exact .inl (by decide)
  have high : Settles center.y (3 : Int64).toInt (3 : Int64).toInt := by
    rw [row]
    exact .inl (by decide)
  have white : c.pixel? ⟨1, 5⟩ = some .white := Canvas.pixel?_filled (by decide)
  have right : (frame center (9223372036854775807 : Int64).toInt (3 : Int64).toInt).columns.hi =
      -1 := by decide
  have near {q : Point} (right : q.x ≤ 1) (row : q.y = 5) :
      q.x ≤ center.x + Integer.greatest ∧ q.y ≤ center.y + Integer.greatest := by
    rw [Integer.greatest]
    omega
  refine ⟨paints, by decide, ?_, ?_, ?_, ?_⟩
  · -- the rightmost cell of the circle is one cell to the left of the canvas
    have cell : (⟨(4611686018427387903 : Int64).toInt, 0⟩ : Point) ∈ circleOutline _ :=
      mem_circleOutline_right (by omega) (by omega)
    refine (circled₀ (.inl (near (by decide) rfl))).trans (if_pos ⟨by decide, ?_⟩)
    refine exists_mem_cellsAround.mpr ⟨_, cell, ?_⟩
    change Covers _ ⟨center.x + _, center.y + 0⟩ _
    simp only [Covers, reached]
    omega
  · -- the brush does not reach one column further
    refine (circled₁ (.inl (near (by decide) rfl))).trans ((if_neg ?_).trans white)
    rintro ⟨-, covered⟩
    obtain ⟨d, mem, covers⟩ := exists_mem_cellsAround.mp covered
    change Covers _ ⟨center.x + d.x, center.y + d.y⟩ _ at covers
    rw [circleOutline, if_pos (by omega)] at mem
    have bounds := (Octant.outline_bounds mem).1
    simp only [Covers, reached] at covers
    omega
  · -- so does the right side of the rectangle
    refine (framed₀ wide high).trans (if_pos ⟨by decide, ⟨-1, 5⟩, ?_, by decide⟩)
    simp only [borderCells, List.mem_filter, Box.mem_cells]
    decide
  · -- and not a column further either
    refine (framed₁ wide high).trans ((if_neg ?_).trans white)
    rintro ⟨-, p, mem, covers⟩
    change p ∈ borderCells (frame center _ _) at mem
    simp only [borderCells, List.mem_filter, Box.mem_cells, Box.mem_def, Interval.mem_def] at mem
    simp only [Covers, reached] at covers
    omega

/-- Around a cell at the left end of the 64-bit range, a circle and a rectangle that end to the left
of the canvas are painted on it. -/
theorem drawn_around_far_cell :
    let c := Canvas.filled 1 .white
    let center : Point := ⟨(-9223372036854775808 : Int64).toInt, (0 : Int64).toInt⟩
    let widest := (9223372036854775807 : Int64).toInt
    ¬ c.Contains center ∧ c.pixel? ⟨0, 0⟩ = some .white ∧
      ((circle c center widest (1 : Int64).toInt .black).pixel? ⟨0, 0⟩ = some .black ∧
        ¬ ∃ p ∈ cellsAround center (circleOutline widest), Covers (1 : Int64).toInt p ⟨0, 0⟩) ∧
      (rectangle c center widest (1 : Int64).toInt (5 : Int64).toInt .black).pixel? ⟨0, 0⟩ =
          some .black ∧
        ¬ ∃ p ∈ borderCells (frame center widest (1 : Int64).toInt),
          Covers (5 : Int64).toInt p ⟨0, 0⟩ := by
  intro c center widest
  have fits : center.Fits := ⟨Integer.fits_toInt (-9223372036854775808), Integer.fits_toInt 0⟩
  have column : center.x = -9223372036854775808 := by decide
  have row : center.y = 0 := by decide
  have most : widest = 9223372036854775807 := by decide
  have fine : reach (1 : Int64).toInt = 0 := by decide
  have thick : reach (5 : Int64).toInt = 2 := by decide
  have on : c.Contains ⟨0, 0⟩ := by decide
  refine ⟨by decide, Canvas.pixel?_filled on, ⟨?_, ?_⟩, ?_, not_covers_border on (.inl ?_)⟩
  · -- the pixel is seen one cell to the left of where it is, on the outline
    have seen : seenFrom center ⟨0, 0⟩ = ⟨-1, 0⟩ := by decide
    have cell : (⟨widest, 0⟩ : Point) ∈ circleOutline widest :=
      mem_circleOutline_right (by omega) (by omega)
    refine (pixel?_circle_seen (by decide) fits c _ _ _).trans (if_pos ⟨on, ?_⟩)
    rw [seen]
    refine exists_mem_cellsAround.mpr ⟨_, cell, ?_⟩
    simp only [Covers, fine]
    omega
  · -- in integers without bounds the circle ends two cells to the left of the pixel
    rintro covered
    obtain ⟨d, mem, covers⟩ := exists_mem_cellsAround.mp covered
    rw [circleOutline, if_pos (by omega)] at mem
    have bounds := (Octant.outline_bounds mem).1
    simp only [Covers, fine] at covers
    omega
  · -- the rectangle is moved on by half its width, and then ends two cells from the pixel
    refine (pixel?_rectangle_settled (by decide) fits c _ (by decide) (by decide) _).trans
      (if_pos ⟨on, ⟨-2, 0⟩, ?_, by decide⟩)
    simp only [borderCells, List.mem_filter, Box.mem_cells]
    decide
  · -- and the rectangle ends half the range to the left of it
    have right : (frame center widest (1 : Int64).toInt).columns.hi = -4611686018427387905 := by
      decide
    omega

end BrushScript.Paint
