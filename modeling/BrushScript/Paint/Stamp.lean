import BrushScript.Canvas

/-!
# Brush stamps

A stamp is a square of the brush's colour around a cell. It reaches half the brush size, rounded
down, to each side, so an even size paints like the odd size above it. The part of the square off
the canvas is lost, and the clear colour paints nothing.

Lines stamp cell by cell. Circles and rectangles have ways of their own that paint the same, which
are faster where the outline is long, or the canvas small.
-/

namespace BrushScript.Paint

/-- How far a brush reaches from its cell; a size below one counts as one. -/
def reach (size : Int) : Int := max size 1 / 2

/-- Paint the square of a brush around a cell. -/
def stamp (c : Canvas) (center : Point) (size : Int) (color : Color) : Canvas :=
  if color = .clear then c else c.fillBox (.around center (reach size)) color

@[simp] theorem side_stamp (c : Canvas) (center : Point) (size : Int) (color : Color) :
    (stamp c center size color).side = c.side := by
  unfold stamp
  split <;> simp

end BrushScript.Paint
