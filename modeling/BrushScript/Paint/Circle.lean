import BrushScript.Paint.Octant
import BrushScript.Paint.Stamp

/-!
# Circles

A circle is the brush stamped on every cell of its outline. While the outline is short it is stamped
cell by cell. An outline of more rows than the canvas has is not listed: each pixel of the canvas
asks instead whether the outline comes within reach of the brush, so that the work is bounded by the
canvas however large the radius.

Seen from the centre, the question of a pixel is whether the outline meets a box of the size of the
brush. For a whole row of pixels the rows of that box are the same, and for a whole column its
columns, so what the outline does there is found once for each (`axisStrips`), and a pixel only has
to put two answers together.

All coordinates are 64-bit integers, and sums stop at the ends of that range.
-/

namespace BrushScript.Paint

/-- The cell at an offset from another. -/
def offset (center delta : Point) : Point :=
  ⟨Integer.saturate (center.x + delta.x), Integer.saturate (center.y + delta.y)⟩

/-- Stamp the brush on every cell of the outline. -/
def stampOutline (c : Canvas) (center : Point) (outline : List Point) (size : Int) (color : Color) :
    Canvas :=
  outline.foldl (fun c delta => stamp c (offset center delta) size color) c

/-- The box that the brush covers at a cell, seen from the centre. -/
def reachBox (center : Point) (size : Int) (p : Point) : Box :=
  .around ⟨Integer.saturate (p.x - center.x), Integer.saturate (p.y - center.y)⟩ (reach size)

/-- The outline around a centre comes within reach of the brush at a cell. -/
def withinReach (arc : Octant) (center : Point) (size : Int) (p : Point) : Bool :=
  arc.touches (reachBox center size p)

/-- The places along one axis of a canvas, each with the strips that the brush covers there. -/
def axisStrips (c : Canvas) (arc : Octant) (center size : Int) : List (Int × List Octant.Strip) :=
  (Interval.mk 0 (c.side - 1)).toList.map fun n =>
    (n, arc.strips (.around (Integer.saturate (n - center)) (reach size)))

/-- The cells of a canvas at which the outline comes within reach. The strips are found once for
each column and each row. -/
def reachedCells (c : Canvas) (arc : Octant) (center : Point) (size : Int) : List Point :=
  let columns := axisStrips c arc center.x size
  let rows := axisStrips c arc center.y size
  rows.flatMap fun row =>
    (columns.filter fun column => Octant.someCross column.2 row.2).map fun column =>
      ⟨column.1, row.1⟩

theorem mem_reachedCells {c : Canvas} {arc : Octant} {center : Point} {size : Int} {p : Point} :
    p ∈ reachedCells c arc center size ↔ c.Contains p ∧ withinReach arc center size p := by
  simp only [reachedCells, axisStrips, List.mem_flatMap, List.mem_map, List.mem_filter,
    Interval.mem_toList, Interval.mem_def]
  constructor
  · rintro ⟨_, ⟨y, hy, rfl⟩, _, ⟨⟨x, hx, rfl⟩, cross⟩, rfl⟩
    refine ⟨?_, cross⟩
    simp only [Canvas.Contains]
    omega
  · rintro ⟨⟨hx, hx', hy, hy'⟩, cross⟩
    exact ⟨_, ⟨p.y, by omega, rfl⟩, _, ⟨⟨p.x, by omega, rfl⟩, cross⟩, rfl⟩

/-- Paint every pixel that the brush on the outline reaches. -/
def paintWithinReach (c : Canvas) (arc : Octant) (center : Point) (size : Int) (color : Color) :
    Canvas :=
  c.paint (reachedCells c arc center size) color

/-- Draw a circle. -/
def circle (c : Canvas) (center : Point) (radius size : Int) (color : Color) : Canvas :=
  if color = .clear ∨ radius ≤ 0 then c
  else
    let arc := Octant.ofRadius radius.toNat
    if arc.lastRow ≤ c.side then stampOutline c center arc.outline size color
    else paintWithinReach c arc center size color

@[simp] theorem side_stampOutline (c : Canvas) (center : Point) (outline : List Point) (size : Int)
    (color : Color) : (stampOutline c center outline size color).side = c.side := by
  unfold stampOutline
  induction outline generalizing c with
  | nil => rfl
  | cons p ps ih => simp [ih]

@[simp] theorem side_circle (c : Canvas) (center : Point) (radius size : Int) (color : Color) :
    (circle c center radius size color).side = c.side := by
  unfold circle
  split
  · rfl
  · dsimp only
    split <;> simp [paintWithinReach]

end BrushScript.Paint
