import BrushScript.Canvas

/-!
# A canvas is a grid

After some writes, each cell of a canvas shows the colour of the last write to it, or what it showed
before (`pixel?_setAll`). The place of a cell among the pixels can be computed in 64-bit words:
those that the words find a place for are the cells within the bounds, and the place is the exact
one (`place?_eq`). So reading and writing by words is reading and writing by cells, which
`grid_after_writes` puts together for the canvases that can be made.

The side of a canvas is less than `2 ^ 32`, which is part of what a canvas is. So the place of a
cell is less than `2 ^ 64` and its computation in unsigned words never wraps around
(`toNat_ofNat_index`), and in signed words the side is the number that the bounds compare with
(`inBounds_iff`).
-/

namespace BrushScript.Canvas

variable {c : Canvas} {x y : Int64} {q : Point}

/-! ## Writes -/

/-- The canvas after some writes. -/
def setAll (c : Canvas) (writes : List (Point × Color)) : Canvas :=
  writes.foldl (fun c w => c.set w.1 w.2) c

@[simp] theorem side_setAll (c : Canvas) (writes : List (Point × Color)) :
    (c.setAll writes).side = c.side := by
  unfold setAll
  induction writes generalizing c with
  | nil => rfl
  | cons w writes ih => rw [List.foldl_cons, ih, side_set]

/-- A cell shows the colour of the last write to it, or what it showed before. -/
theorem pixel?_setAll (writes : List (Point × Color)) (on : c.Contains q) :
    (c.setAll writes).pixel? q = (writes.reverse.lookup q).or (c.pixel? q) := by
  unfold setAll
  induction writes generalizing c with
  | nil => rfl
  | cons w writes ih =>
    have first : (c.set w.1 w.2).pixel? q = ([w].lookup q).or (c.pixel? q) := by
      rw [pixel?_set, List.lookup_cons, List.lookup_nil]
      by_cases same : q = w.1
      · -- the write is to the cell
        simp [same, same ▸ on]
      · -- the write is to another cell
        simp [same, beq_eq_false_iff_ne.mpr same]
    rw [List.foldl_cons, ih (contains_set.mpr on), List.reverse_cons, List.lookup_append,
      Option.or_assoc, first]

/-! ## Cells in words

Coordinates come as signed words. They are compared with the side in signed words, for the bounds,
or turned into unsigned ones, for a place, and both give the same cells.
-/

/-- The bounds in signed words: from zero to the side, or to the greatest word. -/
def inBounds (c : Canvas) (x y : Int64) : Bool :=
  let side := Int64.ofInt (Integer.saturate c.side)
  (0 ≤ x && x < side) && (0 ≤ y && y < side)

theorem inBounds_iff : c.inBounds x y ↔ c.Contains ⟨x.toInt, y.toInt⟩ := by
  have small := c.side_lt
  have fits : Integer.Fits c.side := by
    simp only [Integer.Fits, Integer.least, Integer.greatest]
    omega
  have side : (Int64.ofInt (Integer.saturate c.side)).toInt = c.side := by
    rw [Integer.saturate_of_fits fits, Integer.toInt_ofInt fits]
  simp only [inBounds, Bool.and_eq_true, decide_eq_true_eq, Int64.le_iff_toInt_le,
    Int64.lt_iff_toInt_lt, side, Contains, Int64.toInt_zero, and_assoc]

/-- An unsigned word, for a word that is not negative. -/
def unsigned? (n : Int64) : Option UInt64 := if 0 ≤ n then some n.toUInt64 else none

/-- The place of a cell among the pixels in unsigned words, if its column and its row are less than
the side. -/
def place? (c : Canvas) (x y : Int64) : Option UInt64 := do
  let x ← unsigned? x
  let y ← unsigned? y
  let side := UInt64.ofNat c.side
  if x < side ∧ y < side then some (y * side + x) else none

theorem toNat_ofNat_toInt (n : Int64) : (UInt64.ofNat n.toInt.toNat).toNat = n.toInt.toNat := by
  have := n.toInt_lt
  exact UInt64.toNat_ofNat_of_lt' (Nat.lt_of_le_of_lt (m := 2 ^ 63) (by omega) (by decide))

theorem unsigned?_eq (n : Int64) :
    unsigned? n = if 0 ≤ n.toInt then some (UInt64.ofNat n.toInt.toNat) else none := by
  have sign : 0 ≤ n ↔ 0 ≤ n.toInt := Int64.le_iff_toInt_le
  rw [unsigned?]
  by_cases positive : 0 ≤ n.toInt
  · rw [if_pos (sign.mpr positive), if_pos positive, Option.some.injEq, ← UInt64.toNat_inj,
      Int64.toNat_toUInt64_of_le (sign.mpr positive), toNat_ofNat_toInt]
    rfl
  · rw [if_neg (mt sign.mp positive), if_neg positive]

theorem toNat_ofNat_side (c : Canvas) : (UInt64.ofNat c.side).toNat = c.side :=
  UInt64.toNat_ofNat_of_lt' (Nat.lt_trans c.side_lt (by decide))

/-- The cells of the canvas have a place, which is the exact one, and others have none. -/
theorem place?_eq (c : Canvas) (x y : Int64) :
    c.place? x y = if c.Contains ⟨x.toInt, y.toInt⟩ then
      some (UInt64.ofNat (c.index ⟨x.toInt, y.toInt⟩)) else none := by
  have place : UInt64.ofNat (c.index ⟨x.toInt, y.toInt⟩) =
      UInt64.ofNat y.toInt.toNat * UInt64.ofNat c.side + UInt64.ofNat x.toInt.toNat := by
    rw [index, UInt64.ofNat_add, UInt64.ofNat_mul]
  rw [place?, unsigned?_eq, unsigned?_eq, place]
  by_cases left : 0 ≤ x.toInt
  · -- neither coordinate is negative, so it is the comparison with the side that decides
    by_cases top : 0 ≤ y.toInt
    · simp only [left, top, if_true, Option.bind_eq_bind, Option.bind_some,
        UInt64.lt_iff_toNat_lt, toNat_ofNat_toInt, toNat_ofNat_side, Contains, true_and]
      congr 1
      simp only [eq_iff_iff]
      omega
    · -- the row is negative
      simp [Contains, left, top]
  · -- the column is negative
    simp [Contains, left]

theorem toNat_ofNat_index (on : c.Contains q) : (UInt64.ofNat (c.index q)).toNat = c.index q := by
  have place := index_lt on
  have square : c.side * c.side < 0x100000000 * 0x100000000 :=
    Nat.mul_lt_mul'' c.side_lt c.side_lt
  rw [c.size_eq] at place
  exact UInt64.toNat_ofNat_of_lt' (Nat.lt_trans place square)

/-- The pixel at the place that words give. -/
def read? (c : Canvas) (x y : Int64) : Option Color :=
  (c.place? x y).bind fun i => c.pixels[i.toNat]?

theorem pixel?_eq_read? (c : Canvas) (x y : Int64) :
    c.pixel? ⟨x.toInt, y.toInt⟩ = c.read? x y := by
  rw [pixel?, read?, place?_eq]
  split
  · next on => rw [Option.bind_some, toNat_ofNat_index on]
  · rfl

/-- The pixels with the one at the place that words give replaced. -/
def written (c : Canvas) (x y : Int64) (color : Color) : Array Color :=
  match c.place? x y with
  | some i => c.pixels.setIfInBounds i.toNat color
  | none => c.pixels

theorem pixels_set (c : Canvas) (x y : Int64) (color : Color) :
    (c.set ⟨x.toInt, y.toInt⟩ color).pixels = c.written x y color := by
  rw [set, written, place?_eq]
  by_cases on : c.Contains ⟨x.toInt, y.toInt⟩
  · simp only [if_pos on, toNat_ofNat_index on]
  · simp only [if_neg on]

/-! ## The grid

A canvas is made from pixels, if there are as many as the side asks for, or in one colour, if the
number of pixels is a word. Nothing else is assumed of it.
-/

/-- A side whose square is a 64-bit number. -/
theorem lt_of_square_lt {side : Nat} (fits : side * side < 0x10000000000000000) :
    side < 0x100000000 := by
  refine Nat.lt_of_not_le fun long => ?_
  have square : 0x100000000 * 0x100000000 ≤ side * side := Nat.mul_le_mul long long
  omega

/-- A canvas that was made from pixels or in one colour, and written on: it has its side and the
pixels for it, a cell has a colour exactly if it is within the bounds, a write shows in its own cell
and nowhere else, and each cell has the colour of the last write to it or that of the beginning. It
is the same whether cells are found in integers or in 64-bit words. -/
theorem grid_after_writes {side : Nat} {c : Canvas}
    (made : (∃ pixels, ofPixels? side pixels = some c) ∨
      ∃ color, ∃ fits : side * side < 0x10000000000000000,
        c = filled side color (lt_of_square_lt fits))
    (writes : List (Point × Color)) :
    let d := c.setAll writes
    d.side = side ∧ d.pixels.size = side * side ∧
    (∀ x y : Int64, (d.pixel? ⟨x.toInt, y.toInt⟩).isSome ↔ d.inBounds x y) ∧
    (∀ q, (d.pixel? q).isSome ↔ (0 ≤ q.x ∧ q.x < side) ∧ 0 ≤ q.y ∧ q.y < side) ∧
    (∀ p q color, (d.set p color).pixel? q =
      if q = p ∧ d.Contains p then some color else d.pixel? q) ∧
    (∀ q, d.Contains q → d.pixel? q = (writes.reverse.lookup q).or (c.pixel? q)) ∧
    ∀ x y : Int64, d.pixel? ⟨x.toInt, y.toInt⟩ = d.read? x y ∧
      ∀ color, (d.set ⟨x.toInt, y.toInt⟩ color).pixels = d.written x y color := by
  intro d
  have same : c.side = side := by
    rcases made with ⟨pixels, made⟩ | ⟨color, fits, rfl⟩
    · exact (ofPixels?_eq_some_iff.mp made).1
    · rfl
  have kept : d.side = side := (side_setAll c writes).trans same
  refine ⟨kept, kept ▸ d.size_eq, fun x y => ?_, fun q => ?_, pixel?_set d, fun q on => ?_,
    fun x y => ⟨d.pixel?_eq_read? x y, d.pixels_set x y⟩⟩
  · rw [isSome_pixel?, inBounds_iff]
  · rw [isSome_pixel?, Contains, kept, and_assoc]
  · exact pixel?_setAll writes ((contains_congr (side_setAll c writes)).mp on)

/-- Three writes on a canvas of four pixels, two of them to the last cell and one off the canvas. -/
theorem grid_after_writes_corner :
    let c : Canvas := ⟨2, #[.white, .black, .clear, .white], rfl, by decide⟩
    let d := c.setAll [(⟨1, 1⟩, .black), (⟨2, 0⟩, .black), (⟨1, 1⟩, .clear)]
    ofPixels? 2 #[.white, .black, .clear, .white] = some c ∧
      d.pixels.size = 4 ∧ d.pixel? ⟨1, 1⟩ = some .clear ∧ d.pixel? ⟨0, 1⟩ = some .clear ∧
      d.read? 1 0 = some .black ∧ d.read? 2 0 = none := by
  intro c d
  have made : ofPixels? 2 #[.white, .black, .clear, .white] = some c := rfl
  obtain ⟨-, size, -, -, -, shown, words⟩ := grid_after_writes (.inl ⟨_, made⟩)
    [(⟨1, 1⟩, .black), (⟨2, 0⟩, .black), (⟨1, 1⟩, .clear)]
  refine ⟨made, size, shown ⟨1, 1⟩ (by decide), shown ⟨0, 1⟩ (by decide), ?_, ?_⟩
  · exact (words 1 0).1.symm.trans (shown ⟨1, 0⟩ (by decide))
  · exact (words 2 0).1.symm

end BrushScript.Canvas
