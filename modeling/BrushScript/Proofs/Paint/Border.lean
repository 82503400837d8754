import BrushScript.Paint.Rectangle
import BrushScript.Proofs.Paint.Stamp
import Mathlib.Logic.Basic

/-!
# A rectangle is its border, stamped

A rectangle paints four boxes, one for each side. What the brush reaches from the cells of a box is
the box grown by the brush (`exists_covers_iff`), and the four sides hold the cells of the border
(`mem_borderCells_iff`), so the boxes are what stamping the border cell by cell would paint:
`rectangle_eq_stamps`. The ends of a side can lie past the end of the 64-bit range, where its box is
cut off. There the brush has not enough reach to come back to the canvas, so no pixel shows the
difference (`Interval.mem_widen_cut`). A top left corner cannot be out of the range like that: the
rectangle is moved on as a whole (`settled`), which from a centre on the canvas is never needed.

The border itself, `borderCells`, is a list of cells with integer coordinates, and the frame it is
taken from is computed without any bounds. So the statement says what a rectangle should look like
without mentioning the range, and every cut that the drawing makes has to be shown harmless.

* `Interval.mem_widen_cut`, `Box.mem_widen_cut`: the canvas does not show where a box was cut off;
* `exists_covers_border_iff`: the brush on a border, side by side;
* `exists_mem_sides_centered`: the boxes that are painted are these sides;
* `pixel?_rectangle_settled`: each pixel, for every centre with 64-bit coordinates.
-/

namespace BrushScript

/-! ## Boxes grown and cut off

The canvas begins at zero and has at most `2 ^ 32` columns, and a brush reaches less than `2 ^ 62`
cells. So between the canvas and the end of the range lies more than what any brush reaches.
-/

namespace Interval

/-- The interval cut off at the end of the 64-bit range. -/
def cut (i : Interval) : Interval := ⟨min Integer.greatest i.lo, min Integer.greatest i.hi⟩

/-- Of an interval that is cut off and grown by what a brush reaches, the canvas shows the same part
as if it were not cut off. -/
theorem mem_widen_cut {i : Interval} {n margin : Int} (low : 0 ≤ n) (high : n < 0x100000000)
    (bounds : 0 ≤ margin ∧ margin < 0x4000000000000000) :
    n ∈ i.cut.widen margin ↔ i.lo - margin ≤ n ∧ n ≤ i.hi + margin := by
  rw [mem_widen low high]
  simp only [cut, Integer.greatest]
  omega

end Interval

namespace Box

/-- The box grown by `margin` on all sides, in integers without bounds. -/
def grow (b : Box) (margin : Int) : Box :=
  ⟨⟨b.columns.lo - margin, b.columns.hi + margin⟩, ⟨b.rows.lo - margin, b.rows.hi + margin⟩⟩

/-- The box grown by `margin` on all sides, which stop at the ends of the 64-bit range. -/
def widen (b : Box) (margin : Int) : Box := ⟨b.columns.widen margin, b.rows.widen margin⟩

/-- The box cut off at the end of the 64-bit range. -/
def cut (b : Box) : Box := ⟨b.columns.cut, b.rows.cut⟩

theorem mem_widen_cut {c : Canvas} {b : Box} {q : Point} (on : c.Contains q) {margin : Int}
    (bounds : 0 ≤ margin ∧ margin < 0x4000000000000000) :
    q ∈ b.cut.widen margin ↔ q ∈ b.grow margin := by
  obtain ⟨⟨left, right⟩, top, bottom⟩ := on.bounds
  exact and_congr (Interval.mem_widen_cut left right bounds)
    (Interval.mem_widen_cut top bottom bounds)

/-- The box has a cell. -/
def HasCells (b : Box) : Prop := b.columns.lo ≤ b.columns.hi ∧ b.rows.lo ≤ b.rows.hi

end Box

namespace Paint

variable {c : Canvas} {center p q : Point} {b : Box}

theorem reach_nonneg (size : Int) : 0 ≤ reach size := by
  simp only [reach]
  omega

/-- From the cells of a box, the brush reaches the cells of the grown box. -/
theorem exists_covers_iff {size : Int} (cells : b.HasCells) :
    (∃ p ∈ b, Covers size p q) ↔ q ∈ b.grow (reach size) := by
  obtain ⟨columns, rows⟩ := cells
  have := reach_nonneg size
  simp only [Box.mem_def, Interval.mem_def, Covers, Box.grow]
  constructor
  · rintro ⟨p, _, _⟩
    omega
  · intro _
    -- the cell of the box that is nearest to `q`
    refine ⟨⟨max b.columns.lo (min q.x b.columns.hi), max b.rows.lo (min q.y b.rows.hi)⟩, ?_⟩
    dsimp only
    omega

/-! ## Borders

The border of a box are the cells in its first and last columns and rows. The four sides overlap in
the corners, and in a box that is one cell wide two of them are the same, which does not matter for
what is covered.
-/

/-- The rectangle of given extents around a centre, in integers without bounds: its top left corner
lies half of each extent from the centre. -/
def frame (center : Point) (width height : Int) : Box :=
  let x := center.x - width.tdiv 2
  let y := center.y - height.tdiv 2
  ⟨⟨x, x + (width - 1)⟩, ⟨y, y + (height - 1)⟩⟩

/-- The cells of a box in its first or last column or row. -/
def borderCells (b : Box) : List Point :=
  b.cells.filter fun p =>
    p.x = b.columns.lo ∨ p.x = b.columns.hi ∨ p.y = b.rows.lo ∨ p.y = b.rows.hi

theorem mem_borderCells_iff (cells : b.HasCells) :
    p ∈ borderCells b ↔ ∃ s ∈ sides b.columns b.rows, p ∈ s := by
  obtain ⟨columns, rows⟩ := cells
  simp only [borderCells, List.mem_filter, Box.mem_cells, decide_eq_true_eq, sides, List.mem_cons,
    List.not_mem_nil, or_false, exists_eq_or_imp, exists_eq_left, Box.mem_def, Interval.mem_def]
  omega

theorem hasCells_of_mem_sides (cells : b.HasCells) {s : Box}
    (mem : s ∈ sides b.columns b.rows) : s.HasCells := by
  simp only [sides, List.mem_cons, List.not_mem_nil, or_false] at mem
  rcases mem with rfl | rfl | rfl | rfl <;> simp only [Box.HasCells] at * <;> omega

/-- From the cells of a border, the brush reaches the cells of the four grown sides. -/
theorem exists_covers_border_iff {size : Int} (cells : b.HasCells) :
    (∃ p ∈ borderCells b, Covers size p q) ↔
      ∃ s ∈ sides b.columns b.rows, q ∈ s.grow (reach size) := by
  constructor
  · -- a cell of the border lies in one of the sides
    rintro ⟨p, mem, covers⟩
    obtain ⟨s, side, inside⟩ := (mem_borderCells_iff cells).mp mem
    exact ⟨s, side, (exists_covers_iff (hasCells_of_mem_sides cells side)).mp
      ⟨p, inside, covers⟩⟩
  · -- a cell of a side belongs to the border
    rintro ⟨s, side, reached⟩
    obtain ⟨p, inside, covers⟩ :=
      (exists_covers_iff (hasCells_of_mem_sides cells side)).mpr reached
    exact ⟨p, (mem_borderCells_iff cells).mpr ⟨s, side, inside⟩, covers⟩

/-! ## Rectangles

How the extents are turned into sides. From a centre with 64-bit coordinates the corner can leave
the range on the left or above only, and the opposite corner on the right or below only.
-/

/-- A border has no cells if an extent is not positive. -/
theorem borderCells_frame_eq_nil {width height : Int} (flat : width ≤ 0 ∨ height ≤ 0) :
    borderCells (frame center width height) = [] := by
  refine List.eq_nil_iff_forall_not_mem.mpr fun p mem => ?_
  simp only [borderCells, List.mem_filter, Box.mem_cells, Box.mem_def, Interval.mem_def,
    frame] at mem
  omega

/-- On one axis: the centre, moved on as far as it takes for the first number of an extent around it
to be a 64-bit integer. -/
def settle (center extent : Int) : Int := max center (Integer.least + extent.tdiv 2)

theorem settle_eq {center extent : Int} (fits : Integer.least ≤ center - extent.tdiv 2) :
    settle center extent = center :=
  Int.max_eq_left (by omega)

/-- The centre around which a rectangle comes to lie: where the top left corner would be out of the
64-bit range, the rectangle is moved on as a whole. -/
def settled (center : Point) (width height : Int) : Point :=
  ⟨settle center.x width, settle center.y height⟩

theorem centered_eq_cut {center : Int} {extent : Int64} (fits : Integer.Fits center)
    (positive : 0 < extent.toInt) :
    centered center extent.toInt =
      Interval.cut ⟨settle center extent.toInt - extent.toInt.tdiv 2,
        settle center extent.toInt - extent.toInt.tdiv 2 + (extent.toInt - 1)⟩ := by
  have := extent.toInt_lt
  simp only [Integer.Fits, Integer.least, Integer.greatest] at fits
  rw [settle, Int.tdiv_eq_ediv_of_nonneg (Int.le_of_lt positive)]
  simp only [centered, Interval.cut, Integer.saturate, Integer.least, Integer.greatest,
    Interval.mk.injEq]
  omega

/-- The four boxes that a rectangle paints are the sides of its border, cut off and grown. -/
theorem exists_mem_sides_centered (fits : center.Fits) (on : c.Contains q)
    {width height : Int64} (size : Int64) (wide : 0 < width.toInt) (high : 0 < height.toInt) :
    (∃ s ∈ sides (centered center.x width.toInt) (centered center.y height.toInt),
        q ∈ s.widen (reach size.toInt)) ↔
      ∃ p ∈ borderCells (frame (settled center width.toInt height.toInt) width.toInt height.toInt),
        Covers size.toInt p q := by
  have cells : (frame (settled center width.toInt height.toInt) width.toInt
      height.toInt).HasCells := by
    simp only [Box.HasCells, frame]
    omega
  have cuts : sides (centered center.x width.toInt) (centered center.y height.toInt) =
      (sides (frame (settled center width.toInt height.toInt) width.toInt height.toInt).columns
        (frame (settled center width.toInt height.toInt) width.toInt height.toInt).rows).map
          Box.cut := by
    rw [centered_eq_cut fits.1 wide, centered_eq_cut fits.2 high]
    rfl
  rw [exists_covers_border_iff cells, cuts]
  simp only [List.mem_map, exists_exists_and_eq_and, Box.mem_widen_cut on (reach_bounds size)]

/-- A rectangle paints the pixels that the brush covers from some cell of its border where it comes
to lie, and no others. -/
theorem pixel?_rectangle_settled {color : Color} (paints : color ≠ .clear) (fits : center.Fits)
    (c : Canvas) {width height : Int64} (size : Int64) (wide : 0 < width.toInt)
    (high : 0 < height.toInt) (q : Point) :
    (rectangle c center width.toInt height.toInt size.toInt color).pixel? q =
      if c.Contains q ∧ ∃ p ∈ borderCells
          (frame (settled center width.toInt height.toInt) width.toInt height.toInt),
        Covers size.toInt p q then some color else c.pixel? q := by
  have draws : ¬ (color = .clear ∨ width.toInt ≤ 0 ∨ height.toInt ≤ 0) := by
    rintro (clears | narrow | low)
    · exact paints clears
    · omega
    · omega
  have side (c : Canvas) (b : Box) (q : Point) :
      (c.fillBox (b.widen (reach size.toInt)) color).pixel? q =
        if c.Contains q ∧ q ∈ b.widen (reach size.toInt) then some color else c.pixel? q := by
    simp only [Canvas.pixel?_fillBox, and_comm]
  have sides := Canvas.pixel?_foldl (fun c b => Canvas.side_fillBox ..) side c
    (sides (centered center.x width.toInt) (centered center.y height.toInt)) q
  have same := and_congr_right fun on : c.Contains q =>
    exists_mem_sides_centered fits on size wide high
  simp only [same] at sides
  rw [rectangle, if_neg draws]
  exact sides

/-- Around a centre on the canvas it lies where it belongs. -/
theorem settled_of_contains (inside : c.Contains center) {width height : Int64}
    (wide : 0 < width.toInt) (high : 0 < height.toInt) :
    settled center width.toInt height.toInt = center := by
  obtain ⟨⟨left, -⟩, top, -⟩ := inside.bounds
  have settles {center : Int} {extent : Int64} (on : 0 ≤ center) (positive : 0 < extent.toInt) :
      settle center extent.toInt = center := by
    have := extent.toInt_lt
    apply settle_eq
    rw [Int.tdiv_eq_ediv_of_nonneg (Int.le_of_lt positive), Integer.least]
    omega
  rw [settled, settles left wide, settles top high]

/-- A rectangle paints the pixels that the brush covers from some cell of its border, and no
others. -/
theorem pixel?_rectangle {color : Color} (paints : color ≠ .clear) (inside : c.Contains center)
    {width height : Int64} (size : Int64) (wide : 0 < width.toInt) (high : 0 < height.toInt)
    (q : Point) :
    (rectangle c center width.toInt height.toInt size.toInt color).pixel? q =
      if c.Contains q ∧ ∃ p ∈ borderCells (frame center width.toInt height.toInt),
        Covers size.toInt p q then some color else c.pixel? q := by
  rw [pixel?_rectangle_settled paints inside.fits c size wide high,
    settled_of_contains inside wide high]

/-- A rectangle around a centre on the canvas is the brush stamped on the cells of its border, which
are taken in integers without bounds. Nothing is drawn in the clear colour, or if an extent is not
positive. -/
theorem rectangle_eq_stamps {c : Canvas} {center : Point} (inside : c.Contains center)
    (width height size : Int64) (color : Color) :
    rectangle c center width.toInt height.toInt size.toInt color =
        stampAll c (borderCells (frame center width.toInt height.toInt)) size.toInt color ∧
      (color ≠ .clear → 0 < width.toInt → 0 < height.toInt →
        ∀ q, (rectangle c center width.toInt height.toInt size.toInt color).pixel? q =
          if c.Contains q ∧ ∃ p ∈ borderCells (frame center width.toInt height.toInt),
            Covers size.toInt p q then some color else c.pixel? q) ∧
      (color = .clear ∨ width.toInt ≤ 0 ∨ height.toInt ≤ 0 →
        rectangle c center width.toInt height.toInt size.toInt color = c) := by
  have still (nothing : color = .clear ∨ width.toInt ≤ 0 ∨ height.toInt ≤ 0) :
      rectangle c center width.toInt height.toInt size.toInt color = c := by
    rw [rectangle, if_pos nothing]
  have drawn (paints : color ≠ .clear) (wide : 0 < width.toInt) (high : 0 < height.toInt) :=
    pixel?_rectangle paints inside size wide high
  refine ⟨?_, drawn, still⟩
  by_cases clears : color = .clear
  · -- the clear colour
    rw [still (.inl clears), clears, stampAll_clear]
  by_cases flat : width.toInt ≤ 0 ∨ height.toInt ≤ 0
  · -- no border
    rw [still (.inr flat), borderCells_frame_eq_nil flat, stampAll_nil]
  · apply Canvas.ext_pixel? -- both sides paint the same pixels
    · rw [side_rectangle, side_stampAll]
    · intro q
      rw [drawn clears (by omega) (by omega), pixel?_stampAll clears]

/-- The right side of a rectangle as wide as can be lies past the end of the 64-bit range. -/
theorem rectangle_eq_stamps_widest :
    let c := Canvas.filled 10 .white
    let drawn := rectangle c ⟨9, 5⟩ (9223372036854775807 : Int64).toInt (3 : Int64).toInt
      (3 : Int64).toInt .black
    c.Contains ⟨9, 5⟩ ∧ drawn.pixel? ⟨0, 3⟩ = some .black ∧ drawn.pixel? ⟨0, 2⟩ = some .white ∧
      rectangle c ⟨9, 5⟩ (0 : Int64).toInt (3 : Int64).toInt (3 : Int64).toInt .black = c := by
  intro c drawn
  have inside : c.Contains ⟨9, 5⟩ := by decide
  have pixel := (rectangle_eq_stamps inside 9223372036854775807 3 3 .black).2.1 (by decide)
    (by decide) (by decide)
  refine ⟨inside, ?_, ?_, (rectangle_eq_stamps inside 0 3 3 .black).2.2 (by decide)⟩
  · -- the pixel is one row above the border
    have border : ⟨0, 4⟩ ∈ borderCells (frame ⟨9, 5⟩ (9223372036854775807 : Int64).toInt
        (3 : Int64).toInt) := by
      simp only [borderCells, List.mem_filter, Box.mem_cells]
      decide
    rw [pixel, if_pos ⟨by decide, _, border, by decide⟩]
  · -- the brush does not reach two rows up
    rw [pixel, if_neg ?_]
    · exact Canvas.pixel?_filled (by decide)
    · rintro ⟨-, p, mem, covers⟩
      simp only [borderCells, List.mem_filter, Box.mem_cells, Box.mem_def, Interval.mem_def] at mem
      have above : (frame ⟨9, 5⟩ (9223372036854775807 : Int64).toInt (3 : Int64).toInt).rows.lo =
        4 := by decide
      have reached : reach (3 : Int64).toInt = 1 := by decide
      simp only [Covers, reached] at covers
      omega

end Paint
end BrushScript
