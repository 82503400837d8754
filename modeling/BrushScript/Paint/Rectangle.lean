import BrushScript.Paint.Stamp

/-!
# Rectangles

The border of a rectangle, thickened by the brush. The stamps along one side cover a box, so each of
the four sides is painted as a single box. The top left corner lies half of each extent, rounded
down, from the centre, so even extents lean to the top left.

All coordinates are 64-bit integers, and sums stop at the ends of that range. The right and the
lower end are counted from the corner and not from the centre. So where the corner has stopped at
the end of the range, the whole rectangle is moved; this takes a centre far off every canvas.
-/

namespace BrushScript.Paint

/-- The four sides of the rectangle with the given columns and rows at its ends. -/
def sides (columns rows : Interval) : List Box :=
  [⟨columns, ⟨rows.lo, rows.lo⟩⟩, ⟨columns, ⟨rows.hi, rows.hi⟩⟩,
    ⟨⟨columns.lo, columns.lo⟩, rows⟩, ⟨⟨columns.hi, columns.hi⟩, rows⟩]

/-- The interval of a given extent centred on a number. -/
def centered (center extent : Int) : Interval :=
  let lo := Integer.saturate (center - extent / 2)
  ⟨lo, Integer.saturate (lo + (extent - 1))⟩

/-- Draw the border of a rectangle. -/
def rectangle (c : Canvas) (center : Point) (width height size : Int) (color : Color) : Canvas :=
  if color = .clear ∨ width ≤ 0 ∨ height ≤ 0 then c
  else
    (sides (centered center.x width) (centered center.y height)).foldl
      (fun c b => c.fillBox ⟨b.columns.widen (reach size), b.rows.widen (reach size)⟩ color) c

@[simp] theorem side_rectangle (c : Canvas) (center : Point) (width height size : Int)
    (color : Color) : (rectangle c center width height size color).side = c.side := by
  unfold rectangle
  split
  · rfl
  · simp [sides]

end BrushScript.Paint
