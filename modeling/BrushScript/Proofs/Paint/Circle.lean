import BrushScript.Paint.Circle
import BrushScript.Proofs.Paint.Arc
import BrushScript.Proofs.Paint.Stamp

/-!
# Both ways to draw a circle are one

A circle whose outline is short is stamped cell by cell, and of one with a long outline each pixel
of the canvas asks whether the brush reaches it. `circle_eq_stamps` says that both leave the canvas
with the brush stamped on every cell of the outline, on whichever side of the threshold the radius
lies. On the way the sums that stop at the ends of the 64-bit range are replaced by exact ones:
where they differ, the brush is too far away to show (`covers_offset_iff`). Distances from the
centre are cut off too, so that a pixel is looked for where it is seen from the centre (`seenFrom`);
from a centre on the canvas that is where it is.

Both ways are described pixel by pixel, by the cells `cellsAround` the centre from which the brush
covers the pixel. Cell by cell this follows from what a row of stamps paints. Pixel by pixel it is
`withinReach_iff`, which says of the arc test that it decides whether there is such a cell. Two
canvases of one side with the same pixels are the same, so nothing else has to be compared.
-/

namespace BrushScript.Paint

variable {c : Canvas} {center q : Point}

/-- The cells at some offsets from a centre, in integers without bounds. -/
def cellsAround (center : Point) (offsets : List Point) : List Point :=
  offsets.map fun d => ⟨center.x + d.x, center.y + d.y⟩

theorem exists_mem_cellsAround {offsets : List Point} {P : Point → Prop} :
    (∃ p ∈ cellsAround center offsets, P p) ↔
      ∃ d ∈ offsets, P ⟨center.x + d.x, center.y + d.y⟩ := by
  simp [cellsAround]

/-! ## Cell by cell

The first way: a row of stamps, whose places are the centre plus the cells of the outline.
-/

theorem stampOutline_eq_stampAll (c : Canvas) (center : Point) (outline : List Point) (size : Int)
    (color : Color) :
    stampOutline c center outline size color =
      stampAll c (outline.map (offset center)) size color := by
  rw [stampOutline, stampAll, List.foldl_map]

/-- The brush covers the same pixels from a sum that stops at the ends of the 64-bit range as from
the exact one. -/
theorem covers_offset_iff (on : c.Contains q) (center d : Point) (size : Int64) :
    Covers size.toInt (offset center d) q ↔
      Covers size.toInt ⟨center.x + d.x, center.y + d.y⟩ q := by
  obtain ⟨⟨left, right⟩, top, bottom⟩ := on.bounds
  have := reach_bounds size
  simp only [Covers, offset, Integer.saturate, Integer.least, Integer.greatest]
  omega

theorem stampOutline_eq_cellsAround (c : Canvas) (center : Point) (outline : List Point)
    (size : Int64) (color : Color) :
    stampOutline c center outline size.toInt color =
      stampAll c (cellsAround center outline) size.toInt color := by
  rw [stampOutline_eq_stampAll]
  refine stampAll_congr fun q on => ?_
  rw [exists_mem_cellsAround]
  simp [covers_offset_iff on]

/-! ## Pixel by pixel

The second way: the brush around a pixel's distance from the centre is a box, and the outline around
the origin is tested for a cell in that box. The three facts on one axis say what the cuts at the
ends of the range do to the box.
-/

/-- The cell as it is seen from a centre: its distances to the right and downwards are cut off at
the greatest 64-bit integer. -/
def seenFrom (center q : Point) : Point :=
  ⟨min q.x (center.x + Integer.greatest), min q.y (center.y + Integer.greatest)⟩

/-- A cell that is no further away is seen where it is. -/
theorem seenFrom_eq (right : q.x ≤ center.x + Integer.greatest)
    (below : q.y ≤ center.y + Integer.greatest) : seenFrom center q = q := by
  rw [seenFrom, Int.min_eq_left right, Int.min_eq_left below]

theorem seenFrom_of_contains (inside : c.Contains center) (on : c.Contains q) :
    seenFrom center q = q := by
  obtain ⟨⟨left, right⟩, top, bottom⟩ := on.bounds
  obtain ⟨⟨left', right'⟩, top', bottom'⟩ := inside.bounds
  apply seenFrom_eq <;> simp only [Integer.greatest] <;> omega

/-- On one axis: a number that is no further out than an arc can be lies in the interval around the
distance of a pixel exactly if the pixel, where it is seen, lies around the number's place. -/
theorem mem_around_distance {n center margin d : Int} (on : 0 ≤ n) (fits : Integer.Fits center)
    (bounds : 0 ≤ margin ∧ margin < 0x4000000000000000) (small : d.natAbs ≤ 0x7fffffffffffffff) :
    d ∈ Interval.around (Integer.saturate (n - center)) margin ↔
      center + d - margin ≤ min n (center + Integer.greatest) ∧
        min n (center + Integer.greatest) ≤ center + d + margin := by
  simp only [Integer.Fits, Integer.least, Integer.greatest] at fits
  simp only [Interval.around, Interval.widen, Interval.mem_def, Integer.saturate, Integer.least,
    Integer.greatest]
  omega

/-- The interval around the distance of a pixel can be negated where an arc can be. -/
theorem le_hi_around_distance {n center margin : Int} (on : 0 ≤ n) (fits : Integer.Fits center)
    (bounds : 0 ≤ margin ∧ margin < 0x4000000000000000) :
    -0x7fffffffffffffff ≤ (Interval.around (Integer.saturate (n - center)) margin).hi := by
  simp only [Integer.Fits, Integer.least, Integer.greatest] at fits
  simp only [Interval.around, Interval.widen, Integer.saturate, Integer.least, Integer.greatest]
  omega

/-- The arc is within reach of a pixel exactly if the brush covers the pixel, where it is seen from
the centre, from a cell of the outline. -/
theorem withinReach_iff (fits : center.Fits) (on : c.Contains q) (radius size : Int64) :
    withinReach (.ofRadius radius.toInt.toNat) center size.toInt q ↔
      ∃ p ∈ cellsAround center (Octant.ofRadius radius.toInt.toNat).outline,
        Covers size.toInt p (seenFrom center q) := by
  obtain ⟨left, -, top, -⟩ := on
  have reached := reach_bounds size
  have most : max radius.toInt.toNat 1 ≤ 0x7fffffffffffffff := by
    have := radius.toInt_lt
    omega
  have small (y : Nat) (le : y ≤ (Octant.ofRadius radius.toInt.toNat).lastRow) :
      ((Octant.ofRadius radius.toInt.toNat).column y).natAbs ≤ 0x7fffffffffffffff ∧
        y ≤ 0x7fffffffffffffff := by
    have row := Nat.le_trans le (Octant.lastRow_le _)
    exact ⟨Nat.le_trans (natAbs_arcColumn_le row) most, by omega⟩
  rw [withinReach, Octant.touches_iff small (le_hi_around_distance left fits.1 reached)
    (le_hi_around_distance top fits.2 reached), exists_mem_cellsAround]
  -- now both sides speak of one cell of the outline, and the two axes are compared one by one
  refine exists_congr fun d => and_congr_right fun mem => ?_
  obtain ⟨column, row⟩ := Octant.outline_bounds mem
  exact and_congr (mem_around_distance left fits.1 reached (Nat.le_trans column most))
    (mem_around_distance top fits.2 reached (Nat.le_trans row most))

/-- Pixel by pixel, a circle paints the pixels that the brush covers from some cell of its outline
where they are seen from the centre. -/
theorem pixel?_paintWithinReach (fits : center.Fits) (c : Canvas) (radius size : Int64)
    (color : Color) (q : Point) :
    (paintWithinReach c (.ofRadius radius.toInt.toNat) center size.toInt color).pixel? q =
      if c.Contains q ∧ ∃ p ∈ cellsAround center (Octant.ofRadius radius.toInt.toNat).outline,
        Covers size.toInt p (seenFrom center q) then some color else c.pixel? q := by
  have reached : q ∈ reachedCells c (.ofRadius radius.toInt.toNat) center size.toInt ∧
      c.Contains q ↔ c.Contains q ∧
        ∃ p ∈ cellsAround center (Octant.ofRadius radius.toInt.toNat).outline,
          Covers size.toInt p (seenFrom center q) := by
    rw [mem_reachedCells, and_assoc, and_comm (b := c.Contains q), ← and_assoc, and_self]
    exact and_congr_right fun on => withinReach_iff fits on radius size
  rw [paintWithinReach, Canvas.pixel?_paint]
  simp only [reached]

theorem paintWithinReach_eq_cellsAround {color : Color} (paints : color ≠ .clear)
    (inside : c.Contains center) (radius size : Int64) :
    paintWithinReach c (.ofRadius radius.toInt.toNat) center size.toInt color =
      stampAll c (cellsAround center (Octant.ofRadius radius.toInt.toNat).outline) size.toInt
        color := by
  apply Canvas.ext_pixel?
  · rw [paintWithinReach, Canvas.side_paint, side_stampAll]
  · intro q
    have same := and_congr_right fun on : c.Contains q =>
      show (∃ p ∈ cellsAround center (Octant.ofRadius radius.toInt.toNat).outline,
          Covers size.toInt p (seenFrom center q)) ↔ _ by rw [seenFrom_of_contains inside on]
    rw [pixel?_paintWithinReach inside.fits, pixel?_stampAll paints]
    simp only [same]

/-! ## Both

The outline is short or long, and both are the same stamps. Nothing is drawn in the clear colour or
for a radius that is not positive.
-/

/-- A circle is the brush stamped on the cells of its outline around the centre. -/
theorem circle_eq_stampAll (inside : c.Contains center) (radius size : Int64) (color : Color) :
    circle c center radius.toInt size.toInt color =
      stampAll c (cellsAround center (circleOutline radius.toInt)) size.toInt color := by
  unfold circle circleOutline
  by_cases clears : color = .clear
  · rw [if_pos (.inl clears), clears, stampAll_clear]
  by_cases positive : 0 < radius.toInt
  · have draws : ¬ (color = .clear ∨ radius.toInt ≤ 0) := not_or.mpr ⟨clears, by omega⟩
    rw [if_neg draws, if_pos positive]
    dsimp only
    split
    · rw [stampOutline_eq_cellsAround] -- a short outline
    · rw [paintWithinReach_eq_cellsAround clears inside] -- a long outline
  · rw [if_pos (.inr (by omega)), if_neg positive]
    rfl

/-- A circle is the brush stamped on the cells of its outline around the centre, whether the cells
are taken in integers without bounds or as sums that stop at the ends of the 64-bit range. The
pixels that are within reach of the outline are the same, also for a radius whose outline is short
enough to be stamped. -/
theorem circle_eq_stamps {c : Canvas} {center : Point} (inside : c.Contains center)
    (radius size : Int64) (color : Color) :
    circle c center radius.toInt size.toInt color =
        stampAll c (cellsAround center (circleOutline radius.toInt)) size.toInt color ∧
      circle c center radius.toInt size.toInt color =
        stampOutline c center (circleOutline radius.toInt) size.toInt color ∧
      (color ≠ .clear → 0 < radius.toInt →
        circle c center radius.toInt size.toInt color =
          paintWithinReach c (.ofRadius radius.toInt.toNat) center size.toInt color) := by
  have stamped := circle_eq_stampAll inside radius size color
  refine ⟨stamped, ?_, ?_⟩
  · -- sums that stop at the ends of the range cover the same pixels
    rw [stamped, stampOutline_eq_cellsAround]
  · -- the test of each pixel gives the same, also where stamping is used
    intro paints positive
    rw [stamped, paintWithinReach_eq_cellsAround paints inside, circleOutline, if_pos positive]

/-- A circle paints the pixels that the brush covers from some cell of its outline, and no
others. -/
theorem pixel?_circle {color : Color} (paints : color ≠ .clear) (inside : c.Contains center)
    (radius size : Int64) (q : Point) :
    (circle c center radius.toInt size.toInt color).pixel? q =
      if c.Contains q ∧ ∃ p ∈ cellsAround center (circleOutline radius.toInt),
        Covers size.toInt p q then some color else c.pixel? q := by
  rw [circle_eq_stampAll inside, pixel?_stampAll paints]

/-- A thick circle of which the canvas holds one corner only. -/
theorem circle_eq_stamps_corner :
    (Canvas.filled 10 .white).Contains ⟨0, 0⟩ ∧
      circle (Canvas.filled 10 .white) ⟨0, 0⟩ (16 : Int64).toInt (9 : Int64).toInt .black =
        stampAll (Canvas.filled 10 .white) (cellsAround ⟨0, 0⟩ (circleOutline (16 : Int64).toInt))
          (9 : Int64).toInt .black ∧
      circle (Canvas.filled 10 .white) ⟨0, 0⟩ (16 : Int64).toInt (9 : Int64).toInt .black =
        paintWithinReach (Canvas.filled 10 .white) (.ofRadius (16 : Int64).toInt.toNat) ⟨0, 0⟩
          (9 : Int64).toInt .black := by
  have inside : (Canvas.filled 10 .white).Contains ⟨0, 0⟩ := by decide
  obtain ⟨stamped, -, reached⟩ := circle_eq_stamps inside 16 9 .black
  exact ⟨inside, stamped, reached (by decide) (by decide)⟩

end BrushScript.Paint
