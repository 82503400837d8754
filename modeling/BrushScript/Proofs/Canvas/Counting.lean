import BrushScript.Machine.Eval
import BrushScript.Proofs.Paint.Flood
import Mathlib.Data.Finset.Card
import Mathlib.Data.List.Nodup

/-!
# A count is the number of its cells

`c.alike color b` are the cells of a box that lie on the canvas and have nearly the given colour.
The cells of a box are listed once each (`Box.nodup_cells`), so that going through them counts the
cells that are alike: `count_eq_card`. A count therefore depends on nothing but the cells of the
box. Which two opposite corners are given does not matter, and the counts of two boxes without a
common cell add up to the count of both (`count_eq_add`). `count_between` puts this together, up to
the number that a script gets.

The count itself goes through the part of the box that is on the canvas. That this loses nothing is
shown in `count_eq_card`, once: a cell in nearly the given colour has a colour, so it lies on the
canvas. A script gets the count as a 64-bit number, which is exact as long as the pixels of the
canvas can be numbered in that range (`answer_colorCount`).
-/

namespace BrushScript

/-! ## Boxes as lists -/

theorem Interval.nodup_toList (i : Interval) : i.toList.Nodup :=
  List.nodup_range.map fun a b same => by omega

theorem Interval.length_toList (i : Interval) : i.toList.length = (i.hi + 1 - i.lo).toNat := by
  rw [toList, List.length_map, List.length_range]

/-- The cells of a box are listed once each. -/
theorem Box.nodup_cells (b : Box) : b.cells.Nodup := by
  refine List.nodup_flatMap.mpr ⟨fun y _ => ?_, ?_⟩
  · -- in one row, different columns are different cells
    exact b.columns.nodup_toList.map fun a b same => congrArg Point.x same
  · -- cells of different rows are different
    refine b.rows.nodup_toList.imp fun {y y'} other => ?_
    simp only [Function.onFun, List.disjoint_left, List.mem_map]
    rintro _ ⟨x, -, rfl⟩ ⟨x', -, same⟩
    exact other (congrArg Point.y same).symm

theorem Box.length_cells (b : Box) :
    b.cells.length = b.rows.toList.length * b.columns.toList.length := by
  simp [cells, List.length_flatMap]

theorem Interval.between_comm (a b : Int) : between a b = between b a := by
  rw [between, between, Int.min_comm, Int.max_comm]

theorem Box.mem_between {p q r : Point} : r ∈ Box.between p q ↔
    (min p.x q.x ≤ r.x ∧ r.x ≤ max p.x q.x) ∧ min p.y q.y ≤ r.y ∧ r.y ≤ max p.y q.y := Iff.rfl

namespace Canvas

open Paint (matchesAt matchesAt_iff contains_of_matchesAt)

variable {c : Canvas} {color : Color} {b b₁ b₂ : Box} {r : Point}

/-! ## Cells of nearly one colour

The set of cells that a count is the size of. It is a part of the cells of the canvas, so a count
never exceeds the number of pixels.
-/

/-- A canvas has as many cells as pixels. -/
theorem length_cells (c : Canvas) : c.cells.length = c.pixels.size := by
  have side : ((c.side : Int) - 1 + 1 - 0).toNat = c.side := by omega
  rw [cells, Box.length_cells, Interval.length_toList, side, c.size_eq]

/-- The cells of a box that are on the canvas in nearly the given colour. -/
def alike (c : Canvas) (color : Color) (b : Box) : Finset Point :=
  c.cells.toFinset.filter fun r => r ∈ b ∧ matchesAt c color r

theorem mem_alike : r ∈ c.alike color b ↔ r ∈ b ∧ matchesAt c color r = true := by
  rw [alike, Finset.mem_filter, List.mem_toFinset, mem_cells]
  exact ⟨And.right, fun both => ⟨contains_of_matchesAt both.2, both⟩⟩

theorem card_alike_le (c : Canvas) (color : Color) (b : Box) :
    (c.alike color b).card ≤ c.pixels.size :=
  calc (c.alike color b).card ≤ c.cells.toFinset.card := Finset.card_filter_le ..
    _ ≤ c.cells.length := List.toFinset_card_le _
    _ = c.pixels.size := c.length_cells

/-- Counting a colour in a box finds as many cells as there are. -/
theorem count_eq_card (c : Canvas) (color : Color) (b : Box) :
    c.count color b = (c.alike color b).card := by
  have once : ((b.clip c.side).cells.filter (matchesAt c color)).Nodup :=
    (b.clip c.side).nodup_cells.filter _
  have counted : c.count color b = ((b.clip c.side).cells.filter (matchesAt c color)).length :=
    List.countP_eq_length_filter
  rw [counted, ← List.toFinset_card_of_nodup once]
  congr 1
  ext r
  rw [List.mem_toFinset, List.mem_filter, Box.mem_cells, mem_alike]
  refine and_congr_left fun found => ?_
  -- the part of the box on the canvas has all of its cells that have a pixel
  obtain ⟨left, right, top, bottom⟩ := contains_of_matchesAt found
  simp only [Box.mem_def, Box.clip, Interval.mem_clip, left, right, top, bottom, and_true]

/-! ## Counts of boxes -/

/-- A box counts what two boxes count that have its cells between them and none in common. -/
theorem count_eq_add (c : Canvas) (color : Color) (whole : ∀ r, r ∈ b ↔ r ∈ b₁ ∨ r ∈ b₂)
    (apart : ∀ r, r ∈ b₁ → r ∉ b₂) :
    c.count color b = c.count color b₁ + c.count color b₂ := by
  have disjoint : Disjoint (c.alike color b₁) (c.alike color b₂) :=
    Finset.disjoint_left.mpr fun r first second =>
      apart r (mem_alike.mp first).1 (mem_alike.mp second).1
  have union : c.alike color b = c.alike color b₁ ∪ c.alike color b₂ := by
    ext r
    rw [Finset.mem_union, mem_alike, mem_alike, mem_alike, whole, or_and_right]
  rw [count_eq_card, count_eq_card, count_eq_card, union, Finset.card_union_of_disjoint disjoint]

/-! ## What a script counts

The query of a script ends in this count, between the two corners that it names.
-/

/-- A script gets the count as a number, which is exact if the pixels can be numbered. -/
theorem answer_colorCount {resolver : Option ColorResolver} {m : Machine} {name : String}
    (known : resolveColor resolver name = some color)
    (numbered : m.canvas.pixels.size < 0x8000000000000000) (x₁ y₁ x₂ y₂ : Int64) :
    ∃ n : Int64, m.answer resolver .colorCount (name, x₁, y₁, x₂, y₂, ()) = .ok (.number n) ∧
      n.toInt = m.canvas.count color (.between ⟨x₁.toInt, y₁.toInt⟩ ⟨x₂.toInt, y₂.toInt⟩) := by
  refine ⟨_, by simp only [Machine.answer, Machine.colorOf, known]; rfl, ?_⟩
  have all := m.canvas.card_alike_le color (.between ⟨x₁.toInt, y₁.toInt⟩ ⟨x₂.toInt, y₂.toInt⟩)
  rw [← count_eq_card] at all
  exact Int64.toInt_ofNat_of_lt (by omega)

/-- Between two corners, a colour is counted once for each cell of the canvas that lies in the box
they span and has nearly that colour. The corners can be swapped along each axis, and a box can be
cut behind a column or a row. A script gets this number. -/
theorem count_between (c : Canvas) (color : Color) (p q : Point) :
    c.count color (.between p q) = (c.alike color (.between p q)).card ∧
    (∀ r, r ∈ c.alike color (.between p q) ↔
      (min p.x q.x ≤ r.x ∧ r.x ≤ max p.x q.x) ∧ (min p.y q.y ≤ r.y ∧ r.y ≤ max p.y q.y) ∧
        ∃ found, c.pixel? r = some found ∧ found.approx color = true) ∧
    c.count color (.between ⟨q.x, p.y⟩ ⟨p.x, q.y⟩) = c.count color (.between p q) ∧
    c.count color (.between ⟨p.x, q.y⟩ ⟨q.x, p.y⟩) = c.count color (.between p q) ∧
    (∀ x, min p.x q.x ≤ x → x < max p.x q.x →
      c.count color (.between p q) = c.count color (.between ⟨min p.x q.x, p.y⟩ ⟨x, q.y⟩) +
        c.count color (.between ⟨x + 1, p.y⟩ ⟨max p.x q.x, q.y⟩)) ∧
    (∀ y, min p.y q.y ≤ y → y < max p.y q.y →
      c.count color (.between p q) = c.count color (.between ⟨p.x, min p.y q.y⟩ ⟨q.x, y⟩) +
        c.count color (.between ⟨p.x, y + 1⟩ ⟨q.x, max p.y q.y⟩)) ∧
    ∀ (resolver : Option ColorResolver) (m : Machine) (name : String) (x₁ y₁ x₂ y₂ : Int64),
      m.canvas = c → resolveColor resolver name = some color →
      c.pixels.size < 0x8000000000000000 →
      ∃ n : Int64, m.answer resolver .colorCount (name, x₁, y₁, x₂, y₂, ()) = .ok (.number n) ∧
        n.toInt = c.count color (.between ⟨x₁.toInt, y₁.toInt⟩ ⟨x₂.toInt, y₂.toInt⟩) := by
  refine ⟨count_eq_card .., fun r => ?_, ?_, ?_, fun x first last => ?_, fun y first last => ?_, ?_⟩
  · -- what the cells are
    rw [mem_alike, matchesAt_iff, Box.mem_between, and_assoc]
  · -- the corners swapped along the rows
    rw [Box.between, Interval.between_comm q.x]
    rfl
  · -- the corners swapped along the columns
    rw [Box.between, Interval.between_comm q.y]
    rfl
  · -- a cut behind a column
    apply count_eq_add <;> intro r <;> simp only [Box.mem_between] <;> omega
  · -- a cut behind a row
    apply count_eq_add <;> intro r <;> simp only [Box.mem_between] <;> omega
  · -- the number that a script gets
    rintro resolver m name x₁ y₁ x₂ y₂ rfl known numbered
    exact answer_colorCount known numbered x₁ y₁ x₂ y₂

/-- Two black cells above the diagonal of a white canvas, in a box from the second row upwards as
far as corners can lie, which is cut between them. -/
theorem count_between_quarter :
    let c := ((Canvas.filled 3 .white).set ⟨1, 0⟩ .black).set ⟨2, 1⟩ .black
    let above := Box.between ⟨1, 1⟩ ⟨Integer.greatest, Integer.least⟩
    (c.alike .black above).card = 2 ∧
      c.count .black above = c.count .black (.between ⟨1, 1⟩ ⟨1, Integer.least⟩) +
        c.count .black (.between ⟨2, 1⟩ ⟨Integer.greatest, Integer.least⟩) ∧
      ∃ n : Int64, (Machine.start c).answer none .colorCount ("Black", 1, 1,
        9223372036854775807, -9223372036854775808, ()) = .ok (.number n) ∧ n.toInt = 2 := by
  intro c above
  obtain ⟨counted, -, -, -, columns, -, answer⟩ :=
    count_between c .black ⟨1, 1⟩ ⟨Integer.greatest, Integer.least⟩
  have two : c.count .black above = 2 := by decide
  obtain ⟨n, number, exact⟩ := answer none (Machine.start c) "Black" 1 1 9223372036854775807
    (-9223372036854775808) rfl (by decide +kernel) (by decide)
  exact ⟨counted.symm.trans two, columns 1 (by decide) (by decide), n, number,
    exact.trans (congrArg Nat.cast two)⟩

end Canvas
end BrushScript
