import BrushScript.Color
import BrushScript.Interval

/-!
# The canvas

A canvas is a square of pixels, stored row by row from the top left corner. Coordinates are integers
of either sign: off the canvas there is nothing to read, and writing there does nothing. The view is
`pixel?`, and `pixel?_set` says what a write does to it.

That there are as many pixels as cells is part of the structure (`size_eq`), so a cell of the canvas
always has a colour (`isSome_pixel?`), and different cells have different places among the pixels
(`index_inj`). What is proved about painting goes by the view and not by the list.

What is painted at once is a list of cells, or a box, of which only the part on the canvas is gone
through. `pixel?_paint` and `pixel?_fillBox` are to these what `pixel?_set` is to one cell.
-/

namespace BrushScript

/-- A square picture, its pixels row by row. The cells can be counted in 64 bits. -/
structure Canvas where
  side : Nat
  pixels : Array Color
  size_eq : pixels.size = side * side
  side_lt : side < 0x100000000

namespace Canvas

/-- The canvas of one colour. -/
def filled (side : Nat) (color : Color) (h : side < 0x100000000 := by decide) : Canvas :=
  ⟨side, Array.replicate (side * side) color, by simp, h⟩

/-- The canvas with the given pixels, if there are as many as its side asks for. -/
def ofPixels? (side : Nat) (pixels : Array Color) : Option Canvas :=
  if h : pixels.size = side * side ∧ side < 0x100000000 then some ⟨side, pixels, h.1, h.2⟩ else none

theorem ofPixels?_eq_some_iff {side : Nat} {pixels : Array Color} {c : Canvas} :
    ofPixels? side pixels = some c ↔ c.side = side ∧ c.pixels = pixels := by
  unfold ofPixels?
  constructor
  · intro made
    split at made
    · cases made
      exact ⟨rfl, rfl⟩
    · cases made
  · rintro ⟨rfl, rfl⟩
    exact dif_pos ⟨c.size_eq, c.side_lt⟩

/-- The cell lies on the canvas. -/
def Contains (c : Canvas) (p : Point) : Prop := 0 ≤ p.x ∧ p.x < c.side ∧ 0 ≤ p.y ∧ p.y < c.side

instance (c : Canvas) (p : Point) : Decidable (c.Contains p) :=
  inferInstanceAs (Decidable (_ ∧ _))

/-- The place of a cell among the pixels. -/
def index (c : Canvas) (p : Point) : Nat := p.y.toNat * c.side + p.x.toNat

theorem index_lt {c : Canvas} {p : Point} (h : c.Contains p) : c.index p < c.pixels.size := by
  obtain ⟨hx, hx', hy, hy'⟩ := h
  have row : p.y.toNat + 1 ≤ c.side := by omega
  have := Nat.mul_le_mul_right c.side row
  rw [Nat.succ_mul] at this
  rw [index, c.size_eq]
  omega

theorem index_inj {c : Canvas} {p q : Point} (hp : c.Contains p) (hq : c.Contains q)
    (h : c.index p = c.index q) : p = q := by
  obtain ⟨hpx, hpx', hpy, hpy'⟩ := hp
  obtain ⟨hqx, hqx', hqy, hqy'⟩ := hq
  have hs : 0 < c.side := by omega
  have mod := congrArg (· % c.side) h
  have div := congrArg (· / c.side) h
  simp only [index, Nat.mul_add_div hs, Nat.mul_comm _ c.side,
    Nat.mul_add_mod_self_left] at mod div
  rw [Nat.mod_eq_of_lt (by omega), Nat.mod_eq_of_lt (by omega)] at mod
  rw [Nat.div_eq_of_lt (by omega), Nat.div_eq_of_lt (by omega)] at div
  cases p
  cases q
  simp only [Point.mk.injEq] at *
  omega

/-- The colour of a cell, which only cells of the canvas have. -/
def pixel? (c : Canvas) (p : Point) : Option Color :=
  if c.Contains p then c.pixels[c.index p]? else none

/-- The canvas with one cell painted; a cell off the canvas changes nothing. -/
def set (c : Canvas) (p : Point) (color : Color) : Canvas :=
  if c.Contains p then
    { c with
      pixels := c.pixels.setIfInBounds (c.index p) color
      size_eq := by rw [Array.size_setIfInBounds, c.size_eq] }
  else c

/-- Canvases of one side have the same cells. -/
theorem contains_congr {c d : Canvas} (side : c.side = d.side) {p : Point} :
    c.Contains p ↔ d.Contains p := by
  rw [Contains, Contains, side]

@[simp] theorem side_set (c : Canvas) (p : Point) (color : Color) :
    (c.set p color).side = c.side := by
  unfold set
  split <;> rfl

@[simp] theorem contains_set {c : Canvas} {p q : Point} {color : Color} :
    (c.set p color).Contains q ↔ c.Contains q :=
  contains_congr (side_set ..)

theorem isSome_pixel? {c : Canvas} {p : Point} : (c.pixel? p).isSome ↔ c.Contains p := by
  unfold pixel?
  split
  · next h => simp [index_lt h, h]
  · next h => simp [h]

/-- A write shows at its own cell, if that lies on the canvas, and nowhere else. -/
theorem pixel?_set (c : Canvas) (p q : Point) (color : Color) :
    (c.set p color).pixel? q = if q = p ∧ c.Contains p then some color else c.pixel? q := by
  by_cases hp : c.Contains p
  · by_cases hq : c.Contains q
    · by_cases hpq : q = p
      · subst hpq
        have same : (c.set q color).index q = c.index q := by simp [index]
        simp only [pixel?, contains_set, hq, same, and_self, if_true]
        simp [set, hq, index_lt hq]
      · have hne : c.index p ≠ c.index q := fun h => hpq (index_inj hp hq h).symm
        simp only [pixel?, contains_set, hq, if_true, hpq, false_and, if_false]
        simp only [set, hp, if_true]
        exact Array.getElem?_setIfInBounds_ne hne
    · have hne : q ≠ p := fun h => hq (h ▸ hp)
      simp [pixel?, hq, hne]
  · simp [set, hp]

/-- The cells of the canvas row by row. -/
def cells (c : Canvas) : List Point := (Box.mk ⟨0, c.side - 1⟩ ⟨0, c.side - 1⟩).cells

theorem mem_cells {c : Canvas} {p : Point} : p ∈ c.cells ↔ c.Contains p := by
  simp only [cells, Box.mem_cells, Box.mem_def, Interval.mem_def, Contains]
  omega

/-! ## Painting and counting in a box -/

/-- The canvas with the cells of a list painted. -/
def paint (c : Canvas) (cells : List Point) (color : Color) : Canvas :=
  cells.foldl (fun c p => c.set p color) c

/-- The canvas with the cells of a box painted. -/
def fillBox (c : Canvas) (b : Box) (color : Color) : Canvas := c.paint (b.clip c.side).cells color

/-- How many cells of a box have nearly the given colour. -/
def count (c : Canvas) (color : Color) (b : Box) : Nat :=
  (b.clip c.side).cells.countP fun p => (c.pixel? p).any (·.approx color)

@[simp] theorem side_paint (c : Canvas) (cells : List Point) (color : Color) :
    (c.paint cells color).side = c.side := by
  unfold paint
  induction cells generalizing c with
  | nil => rfl
  | cons p ps ih => simp [ih]

theorem pixel?_paint (c : Canvas) (cells : List Point) (color : Color) (q : Point) :
    (c.paint cells color).pixel? q =
      if q ∈ cells ∧ c.Contains q then some color else c.pixel? q := by
  unfold paint
  induction cells generalizing c with
  | nil => simp
  | cons p ps ih =>
    rw [List.foldl_cons, ih, pixel?_set]
    by_cases hq : c.Contains q
    · by_cases hqp : q = p
      · subst hqp
        simp [hq]
      · simp [hq, hqp]
    · have : ¬ (q = p ∧ c.Contains p) := by
        rintro ⟨rfl, h⟩
        exact hq h
      simp [hq, this]

@[simp] theorem side_fillBox (c : Canvas) (b : Box) (color : Color) :
    (c.fillBox b color).side = c.side := side_paint ..

/-- Filling a box paints the cells of the box that lie on the canvas, and no others. -/
theorem pixel?_fillBox (c : Canvas) (b : Box) (color : Color) (q : Point) :
    (c.fillBox b color).pixel? q = if q ∈ b ∧ c.Contains q then some color else c.pixel? q := by
  rw [fillBox, pixel?_paint]
  have : q ∈ (b.clip c.side).cells ∧ c.Contains q ↔ q ∈ b ∧ c.Contains q := by
    simp only [Box.mem_cells, Box.mem_def, Box.clip, Interval.mem_clip, Contains]
    grind
  simp only [this]

end Canvas
end BrushScript
