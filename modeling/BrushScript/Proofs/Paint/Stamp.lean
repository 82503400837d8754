import BrushScript.Paint.Stamp

/-!
# What stamps paint

A canvas is its side and its view (`Canvas.ext_pixel?`), so paintings are compared pixel by pixel.
`Covers size p q` says that the brush on the cell `p` reaches the cell `q`, in integers without
bounds. The ends of the 64-bit range, where the brush stops growing, are far from every canvas: a
pixel is painted by a stamp exactly if the brush covers it (`pixel?_stamp`), and by several stamps
exactly if some of them covers it (`pixel?_stampAll`).

Two drawings are then equal if the same pixels are covered, whatever the stamps are and in which
order they come (`stampAll_congr`). All theorems on circles and rectangles come down to this lemma:
they say which cells one drawing stamps and which cells another, and that the brush covers the same
pixels from both.
-/

namespace BrushScript

/-! ## Canvases by their view

The view of a canvas gives the pixel of a cell, and nothing off the canvas. The array behind it is
row by row, and every place in it is that of one cell (`index_cellAt`), so the view has all of it.
-/

namespace Canvas

/-- The cell of a pixel. -/
def cellAt (c : Canvas) (i : Nat) : Point := ⟨(i % c.side : Nat), (i / c.side : Nat)⟩

theorem contains_cellAt {c : Canvas} {i : Nat} (h : i < c.pixels.size) :
    c.Contains (c.cellAt i) := by
  rw [c.size_eq] at h
  have side : 0 < c.side := Nat.pos_of_lt_mul_left h
  have column : i % c.side < c.side := Nat.mod_lt i side
  have row : i / c.side < c.side := Nat.div_lt_of_lt_mul h
  exact ⟨Int.natCast_nonneg _, Int.ofNat_lt.mpr column, Int.natCast_nonneg _, Int.ofNat_lt.mpr row⟩

theorem index_cellAt (c : Canvas) (i : Nat) : c.index (c.cellAt i) = i := by
  simp only [index, cellAt, Int.toNat_natCast]
  exact Nat.div_add_mod' i c.side

theorem pixel?_cellAt {c : Canvas} {i : Nat} (h : i < c.pixels.size) :
    c.pixel? (c.cellAt i) = some c.pixels[i] := by
  rw [pixel?, if_pos (contains_cellAt h), index_cellAt, Array.getElem?_eq_getElem h]

/-- Canvases of one side on which all cells have the same colours are the same. -/
theorem ext_pixel? {c d : Canvas} (side : c.side = d.side)
    (view : ∀ q, c.pixel? q = d.pixel? q) : c = d := by
  have pixels : c.pixels = d.pixels := by
    apply Array.ext
    · rw [c.size_eq, d.size_eq, side]
    · intro i hc hd
      -- the two sides are equal, so a place belongs to the same cell on both
      have same : c.cellAt i = d.cellAt i := by simp only [cellAt, side]
      have here := view (c.cellAt i)
      rw [pixel?_cellAt hc, same, pixel?_cellAt hd] at here
      exact Option.some.inj here
  obtain ⟨cSide, cPixels, _, _⟩ := c
  obtain ⟨dSide, dPixels, _, _⟩ := d
  cases side
  cases pixels
  rfl

theorem pixel?_filled {side : Nat} {color : Color} {h : side < 0x100000000} {q : Point}
    (on : (filled side color h).Contains q) : (filled side color h).pixel? q = some color := by
  have place := index_lt on
  rw [pixel?, if_pos on, Array.getElem?_eq_getElem place]
  simp only [filled, Array.getElem_replicate]

/-- What one painting after the other paints, each of them in certain places. -/
theorem pixel?_foldl {α : Type} {draw : Canvas → α → Canvas} {color : Color}
    {places : α → Point → Prop} [∀ a, DecidablePred (places a)]
    (side : ∀ c a, (draw c a).side = c.side)
    (each : ∀ c a q, (draw c a).pixel? q =
      if c.Contains q ∧ places a q then some color else c.pixel? q)
    (c : Canvas) (as : List α) (q : Point) :
    (as.foldl draw c).pixel? q =
      if c.Contains q ∧ ∃ a ∈ as, places a q then some color else c.pixel? q := by
  induction as generalizing c with
  | nil => simp
  | cons a as ih =>
    have same : (draw c a).Contains q ↔ c.Contains q := contains_congr (side c a)
    rw [List.foldl_cons, ih, each]
    by_cases on : c.Contains q
    · -- painted first, and after it possibly again in the same colour
      by_cases first : places a q
      · simp [same, on, first]
      · simp [same, on, first]
    · simp [same, on]

/-- The coordinates of cells on a canvas are far from the ends of the 64-bit range. -/
theorem Contains.bounds {c : Canvas} {q : Point} (on : c.Contains q) :
    (0 ≤ q.x ∧ q.x < 0x100000000) ∧ 0 ≤ q.y ∧ q.y < 0x100000000 := by
  have := c.side_lt
  obtain ⟨left, right, top, bottom⟩ := on
  omega

end Canvas

/-- A cell with 64-bit coordinates. -/
def Point.Fits (p : Point) : Prop := Integer.Fits p.x ∧ Integer.Fits p.y

theorem Canvas.Contains.fits {c : Canvas} {q : Point} (on : c.Contains q) : q.Fits := by
  obtain ⟨⟨left, right⟩, top, bottom⟩ := on.bounds
  simp only [Point.Fits, Integer.Fits, Integer.least, Integer.greatest]
  omega

namespace Interval

/-- Away from the ends of the 64-bit range, an interval is grown by all of the margin. -/
theorem mem_widen {i : Interval} {n margin : Int} (low : 0 ≤ n) (high : n < 0x100000000) :
    n ∈ i.widen margin ↔ i.lo - margin ≤ n ∧ n ≤ i.hi + margin := by
  simp only [widen, mem_def, Integer.saturate, Integer.least, Integer.greatest]
  omega

theorem mem_around {n center margin : Int} (low : 0 ≤ n) (high : n < 0x100000000) :
    n ∈ around center margin ↔ center - margin ≤ n ∧ n ≤ center + margin :=
  mem_widen low high

end Interval

namespace Paint

/-! ## One stamp

The box of a stamp is cut at the ends of the 64-bit range, then at the canvas. Since the canvas is
far from these ends, the first cut takes away nothing that the second one would leave.
-/

/-- The brush on the cell `p` reaches the cell `q`. -/
def Covers (size : Int) (p q : Point) : Prop :=
  (p.x - reach size ≤ q.x ∧ q.x ≤ p.x + reach size) ∧
    p.y - reach size ≤ q.y ∧ q.y ≤ p.y + reach size

instance (size : Int) (p q : Point) : Decidable (Covers size p q) :=
  inferInstanceAs (Decidable (_ ∧ _))

/-- The brush of a 64-bit size reaches at most a quarter of the 64-bit range. -/
theorem reach_bounds (size : Int64) :
    0 ≤ reach size.toInt ∧ reach size.toInt < 0x4000000000000000 := by
  have := size.toInt_lt
  simp only [reach]
  omega

theorem stamp_clear (c : Canvas) (p : Point) (size : Int) : stamp c p size .clear = c := by
  rw [stamp, if_pos rfl]

/-- A stamp paints the pixels that the brush covers, and no others. -/
theorem pixel?_stamp {color : Color} (paints : color ≠ .clear) (c : Canvas) (p : Point)
    (size : Int) (q : Point) :
    (stamp c p size color).pixel? q =
      if c.Contains q ∧ Covers size p q then some color else c.pixel? q := by
  rw [stamp, if_neg paints, Canvas.pixel?_fillBox]
  have same : q ∈ Box.around p (reach size) ∧ c.Contains q ↔ c.Contains q ∧ Covers size p q := by
    rw [and_comm]
    refine and_congr_right fun on => ?_
    obtain ⟨⟨left, right⟩, top, bottom⟩ := on.bounds
    rw [Box.mem_def, Box.around, Interval.mem_around left right, Interval.mem_around top bottom]
    rfl
  simp only [same]

/-! ## Several stamps

A list of stamps is a fold, and the side of the canvas stays the same along it. The order does not
matter for the view, since all of them paint in one colour.
-/

/-- Stamp the brush on all cells of a list. -/
def stampAll (c : Canvas) (cells : List Point) (size : Int) (color : Color) : Canvas :=
  cells.foldl (fun c p => stamp c p size color) c

@[simp] theorem stampAll_nil (c : Canvas) (size : Int) (color : Color) :
    stampAll c [] size color = c := rfl

theorem stampAll_cons (c : Canvas) (p : Point) (cells : List Point) (size : Int) (color : Color) :
    stampAll c (p :: cells) size color = stampAll (stamp c p size color) cells size color := rfl

@[simp] theorem side_stampAll (c : Canvas) (cells : List Point) (size : Int) (color : Color) :
    (stampAll c cells size color).side = c.side := by
  induction cells generalizing c with
  | nil => rfl
  | cons p cells ih => rw [stampAll_cons, ih, side_stamp]

theorem stampAll_clear (c : Canvas) (cells : List Point) (size : Int) :
    stampAll c cells size .clear = c := by
  induction cells with
  | nil => rfl
  | cons p cells ih => rw [stampAll_cons, stamp_clear, ih]

/-- Stamps paint the pixels that the brush covers from some of the cells, and no others. -/
theorem pixel?_stampAll {color : Color} (paints : color ≠ .clear) (c : Canvas)
    (cells : List Point) (size : Int) (q : Point) :
    (stampAll c cells size color).pixel? q =
      if c.Contains q ∧ ∃ p ∈ cells, Covers size p q then some color else c.pixel? q :=
  Canvas.pixel?_foldl (fun c p => side_stamp c p size color)
    (fun c p q => pixel?_stamp paints c p size q) c cells q

/-- Stamps from which the brush covers the same pixels leave the same canvas. -/
theorem stampAll_congr {c : Canvas} {cells cells' : List Point} {size : Int} {color : Color}
    (same : ∀ q, c.Contains q →
      ((∃ p ∈ cells, Covers size p q) ↔ ∃ p ∈ cells', Covers size p q)) :
    stampAll c cells size color = stampAll c cells' size color := by
  by_cases clears : color = .clear
  · rw [clears, stampAll_clear, stampAll_clear]
  · apply Canvas.ext_pixel?
    · rw [side_stampAll, side_stampAll]
    · intro q
      rw [pixel?_stampAll clears, pixel?_stampAll clears]
      have := and_congr_right (same q)
      simp only [this]

end Paint
end BrushScript
