import BrushScript.Arithmetic.Bisection
import BrushScript.Arithmetic.SquareRoot
import BrushScript.Interval

/-!
# The first octant of a circle

The outline of a circle is eight reflections of one arc, which has exactly one cell `(x, y)` in each
row `y` from the axis up to the diagonal, with `y ≤ x`. Going up, `x` never grows.

The arc follows the midpoint rule: a column is kept while `(x - 1/2)² + y² ≤ r² + 1/4`, so `x` is
the greatest number with `(2x - 1)² ≤ 4r² - 4y² + 1`. The radii 3 and 4 have arcs of their own,
which keep those small circles round.

Since the columns never grow, the rows of the arc with columns in an interval are an interval again,
and two bisections find it (`rowsWithin`). Whether the arc meets a box is then a question about two
intervals of rows, and no cell of the arc has to be listed for it (`hits`). The outline meets a box
if the arc meets one of the eight reflections of the box.
-/

namespace BrushScript.Paint

/-- The columns of the arcs that do not follow the midpoint rule, from the axis up. -/
def specialArc? : Nat → Option (List Int)
  | 3 => some [3, 2]
  | 4 => some [4, 4, 3]
  | _ => none

/-- The column of the midpoint arc of a radius in a row; a row past the radius is as the last. -/
def midpointColumn (radius y : Nat) : Nat :=
  let y := min y radius
  (Arithmetic.sqrt (4 * radius * radius - 4 * y * y + 1) + 1) / 2

/-- The arc of a circle in the first octant: its radius and its last row. -/
structure Octant where
  radius : Nat
  lastRow : Nat
  deriving DecidableEq, Repr

/-- The column of a radius's arc in a row; minus one past the end of an arc that is listed. -/
def arcColumn (radius y : Nat) : Int :=
  match specialArc? radius with
  | some columns => columns[y]?.getD (-1)
  | none => midpointColumn radius y

namespace Octant

/-- The arc of a radius, which ends at the diagonal. -/
def ofRadius (radius : Nat) : Octant where
  radius := radius
  lastRow := Arithmetic.lastWhere (fun y => y ≤ arcColumn radius y) 0 radius

/-- The column of the arc in a row. -/
def column (arc : Octant) (y : Nat) : Int := arcColumn arc.radius y

/-! ## The whole outline -/

/-- The eight reflections of a cell around the origin. -/
def reflections (p : Point) : List Point :=
  [⟨p.x, p.y⟩, ⟨-p.x, p.y⟩, ⟨p.x, -p.y⟩, ⟨-p.x, -p.y⟩,
    ⟨p.y, p.x⟩, ⟨-p.y, p.x⟩, ⟨p.y, -p.x⟩, ⟨-p.y, -p.x⟩]

/-- The cells of the arc from the axis up. -/
def cells (arc : Octant) : List Point :=
  (List.range (arc.lastRow + 1)).map fun y => ⟨arc.column y, y⟩

/-- Cells are listed by column, and within a column by row. -/
def precedes (p q : Point) : Bool := p.x < q.x || p.x == q.x && p.y ≤ q.y

/-- A list without the elements that repeat the one before them. -/
def dropRepeats : List Point → List Point
  | [] => []
  | [p] => [p]
  | p :: q :: rest => if p = q then dropRepeats (q :: rest) else p :: dropRepeats (q :: rest)

/-- The cells of the outline around the origin, in order and each once. -/
def outline (arc : Octant) : List Point :=
  dropRepeats ((arc.cells.flatMap reflections).mergeSort precedes)

/-! ## Does the outline meet a box? -/

/-- The first row whose column satisfies a condition, or the row after the last. -/
def firstRow (arc : Octant) (p : Int → Bool) : Nat :=
  Arithmetic.firstWhere (fun y => p (arc.column y)) 0 (arc.lastRow + 1)

/-- The rows of the arc whose columns lie in an interval. Columns never grow along the arc, so these
are the rows between two bisections. -/
def rowsWithin (arc : Octant) (columns : Interval) : Interval :=
  ⟨arc.firstRow fun x => x ≤ columns.hi,
    min ((arc.firstRow fun x => x < columns.lo) - 1) arc.lastRow⟩

/-- A cell of the arc lies in the box. -/
def hits (arc : Octant) (b : Box) : Bool := (arc.rowsWithin b.columns).meets b.rows

/-- An interval, and the rows of an arc whose columns lie in it. -/
structure Strip where
  span : Interval
  rows : Interval
  deriving DecidableEq, Repr

/-- The strips of an interval and of the interval of the negated numbers. -/
def strips (arc : Octant) (i : Interval) : List Strip :=
  [i, i.negate].map fun j => ⟨j, arc.rowsWithin j⟩

/-- A cell of the arc, or its reflection at the diagonal, lies where two strips cross. -/
def Strip.crosses (s t : Strip) : Bool := s.rows.meets t.span || t.rows.meets s.span

/-- Some strip of one list crosses some strip of another. -/
def someCross (ss ts : List Strip) : Bool := ss.any fun s => ts.any s.crosses

/-- One of the eight reflections of the arc meets the box: the arc meets one of the eight
reflections of the box. -/
def touches (arc : Octant) (b : Box) : Bool := someCross (arc.strips b.columns) (arc.strips b.rows)

theorem touches_eq_any_hits (arc : Octant) (b : Box) :
    arc.touches b = [b.columns, b.columns.negate].any fun xs =>
      [b.rows, b.rows.negate].any fun ys => arc.hits ⟨xs, ys⟩ || arc.hits ⟨ys, xs⟩ := rfl

end Octant

/-- The outline of a circle around the origin; a radius that is not positive has none. -/
def circleOutline (radius : Int) : List Point :=
  if 0 < radius then (Octant.ofRadius radius.toNat).outline else []

end BrushScript.Paint
