import BrushScript.Proofs.Paint.Flood
import BrushScript.Proofs.Paint.Stamp
import Mathlib.Data.Finset.Card

/-!
# A fill counts what it changes

`c.changes d` are the cells on which two canvases of one side differ. Every cell that a fill paints
had nearly the seed's colour and gets one that is not near it, so that it changes, and no cell is
painted twice, because a painted cell is not in the region any more. So the number that a fill
answers is the number of changed cells (`count_spread`). `flood_paints_region` puts together what a
fill does.

The count is proved along the recursion of the fill: the cells that the rest of the fill changes are
counted on the canvas with the first cell painted, and that cell is not among them
(`changes_spread_set`). It keeps the new colour to the end, as the rest of the fill only ever paints
in that colour (`pixel?_spread_set`).

Nearness of colours is not transitive, so "nearly the seed's colour" is always said of the seed's
own colour and never of the cell that a step comes from: `flood_paints_region_greys`.
-/

namespace BrushScript

/-- The cells on which another canvas of the same side has another colour. -/
def Canvas.changes (c d : Canvas) : Finset Point :=
  c.cells.toFinset.filter fun q => d.pixel? q ≠ c.pixel? q

theorem Canvas.mem_changes {c d : Canvas} (side : d.side = c.side) {q : Point} :
    q ∈ c.changes d ↔ d.pixel? q ≠ c.pixel? q := by
  have off (away : ¬ c.Contains q) : d.pixel? q = c.pixel? q := by
    have away' : ¬ d.Contains q := fun on => away ((contains_congr side).mp on)
    rw [pixel?, pixel?, if_neg away, if_neg away']
  simp only [changes, Finset.mem_filter, List.mem_toFinset, mem_cells]
  constructor
  · exact And.right
  · intro differs
    exact ⟨by_contra fun away => differs (off away), differs⟩

namespace Paint

variable {c : Canvas} {target color : Color} {seed p q : Point}

/-! ## Counting

What a fill does after its first cell, on a canvas where that cell has the new colour already.
-/

/-- The first cell that is painted keeps the new colour. -/
theorem pixel?_spread_set (fresh : color.approx target = false) (on : c.Contains p)
    (stack : List Point) (painted : Nat) :
    (spread target color fresh (c.set p color) stack painted).1.pixel? p = some color := by
  rw [pixel?_spread]
  split
  · rfl
  · rw [Canvas.pixel?_set, if_pos ⟨rfl, on⟩]

/-- Painting a cell of nearly the old colour changes it, and what is changed from then on is changed
elsewhere. -/
theorem changes_spread_set (fresh : color.approx target = false)
    (top : matchesAt c target p = true) (stack : List Point) (painted : Nat) :
    let d := (spread target color fresh (c.set p color) stack painted).1
    p ∉ (c.set p color).changes d ∧ c.changes d = insert p ((c.set p color).changes d) := by
  intro d
  have side : d.side = (c.set p color).side := side_spread ..
  have on := contains_of_matchesAt top
  have final : d.pixel? p = some color := pixel?_spread_set fresh on stack painted
  have set (q : Point) := Canvas.pixel?_set c p q color
  constructor
  · -- the first cell is not changed again
    rw [Canvas.mem_changes side, set, if_pos ⟨rfl, on⟩, final]
    exact fun differs => differs rfl
  · -- the cells that change from the old canvas are that one and those that change later
    ext q
    have side' : d.side = c.side := side.trans (Canvas.side_set ..)
    rw [Finset.mem_insert, Canvas.mem_changes side, Canvas.mem_changes side', set]
    by_cases same : q = p
    · subst same
      obtain ⟨old, pixel, near⟩ := matchesAt_iff.mp top
      rw [final, pixel]
      -- the old colour was near the target and the new one is not
      refine iff_of_true (fun same => ?_) (.inl rfl)
      cases same
      cases near.symm.trans fresh
    · rw [if_neg fun both => same both.1, or_iff_right same]

/-- A fill counts the cells that it changes. -/
theorem count_spread (target color : Color) (fresh : color.approx target = false) (c : Canvas)
    (stack : List Point) (painted : Nat) :
    (spread target color fresh c stack painted).2 =
      painted + (c.changes (spread target color fresh c stack painted).1).card := by
  fun_induction spread target color fresh c stack painted with
  | case1 c painted => simp [Canvas.changes]
  | case2 c painted p rest top ih =>
    -- a cell is painted, and the rest of the fill counts from one more
    obtain ⟨new, changes⟩ := changes_spread_set fresh top (neighbours p ++ rest) (painted + 1)
    rw [ih, changes, Finset.card_insert_of_notMem new]
    omega
  | case3 c painted p rest other ih => exact ih -- a cell that does not match is passed over

theorem count_flood (c : Canvas) (seed : Point) (color : Color) :
    (flood c seed color).2 = (c.changes (flood c seed color).1).card := by
  have none : c.changes c = ∅ := by simp [Canvas.changes]
  unfold flood
  split
  · rw [none, Finset.card_empty]
  · split
    · rw [none, Finset.card_empty]
    · split
      · rw [none, Finset.card_empty]
      · rw [count_spread, Nat.zero_add]

/-! ## Fills

The cells that change are those of the region, where the colour was near the target and no longer
is. Filling again finds the seed in the colour of the fill itself.
-/

theorem Region.matchesAt (h : Region c target p q) : Paint.matchesAt c target q = true := by
  obtain ⟨first, path⟩ := h
  cases path with
  | refl => exact first
  | tail _ step => exact step.2

theorem region_seed (here : c.pixel? seed = some target) : Region c target seed seed :=
  ⟨matchesAt_iff.mpr ⟨target, here, Color.approx_refl target⟩, .refl⟩

/-- A fill changes the cells of its region. -/
theorem mem_changes_flood (here : c.pixel? seed = some target) (paints : color ≠ .clear)
    (fresh : color.approx target = false) :
    q ∈ c.changes (flood c seed color).1 ↔ Region c target seed q := by
  rw [Canvas.mem_changes (side_flood ..), pixel?_flood here paints fresh]
  split
  · next inside =>
    obtain ⟨old, pixel, near⟩ := matchesAt_iff.mp inside.matchesAt
    refine iff_of_true (fun same => ?_) inside
    cases Option.some.inj (same.trans pixel)
    cases near.symm.trans fresh
  · next outside => exact iff_of_false (fun differs => differs rfl) outside

/-- A fill in the colour that the seed has been filled with does nothing. -/
theorem flood_flood (here : c.pixel? seed = some target) (paints : color ≠ .clear)
    (fresh : color.approx target = false) :
    flood (flood c seed color).1 seed color = ((flood c seed color).1, 0) := by
  refine flood_eq_self fun now pixel => .inr ?_
  rw [pixel?_flood here paints fresh, if_pos (region_seed here)] at pixel
  cases pixel
  exact Color.approx_refl color

/-- From a seed off the canvas, in the clear colour or in a colour near that of the seed, a fill
does nothing. Any other fill paints the cells that are reached from the seed by steps to neighbours
over cells of nearly the seed's colour, and leaves all others. These are the cells that it changes,
and it answers their number. The same fill once more does nothing. -/
theorem flood_paints_region (c : Canvas) (seed : Point) (color : Color) :
    (¬ c.Contains seed ∨ color = .clear ∨
        (∃ target, c.pixel? seed = some target ∧ color.approx target = true) →
      flood c seed color = (c, 0)) ∧
    ∀ target, c.pixel? seed = some target → color ≠ .clear → color.approx target = false →
      (∀ q, Region c target seed q → (flood c seed color).1.pixel? q = some color) ∧
      (∀ q, ¬ Region c target seed q → (flood c seed color).1.pixel? q = c.pixel? q) ∧
      (∀ q, q ∈ c.changes (flood c seed color).1 ↔ Region c target seed q) ∧
      (flood c seed color).2 = (c.changes (flood c seed color).1).card ∧
      flood (flood c seed color).1 seed color = ((flood c seed color).1, 0) := by
  constructor
  · -- nothing to do
    rintro still
    refine flood_eq_self fun target here => ?_
    rcases still with off | clears | ⟨target', here', near⟩
    · -- off the canvas there is no colour
      rw [← Canvas.isSome_pixel?, here] at off
      exact absurd rfl off
    · exact .inl clears
    · cases here.symm.trans here'
      exact .inr near
  · -- a fill
    intro target here paints fresh
    have pixel (q : Point) := pixel?_flood here paints fresh q
    refine ⟨fun q inside => ?_, fun q outside => ?_, fun q => mem_changes_flood here paints fresh,
      count_flood c seed color, flood_flood here paints fresh⟩
    · rw [pixel, if_pos inside]
    · rw [pixel, if_neg outside]

/-- On a canvas of greys that are each near the next, what counts is how near a cell is to the seed,
not to the cell that it is reached from. -/
theorem flood_paints_region_greys :
    let greys : Canvas :=
      ⟨2, #[.opaqueOf 0 0 0, .opaqueOf 2 2 2, .opaqueOf 9 9 9, .opaqueOf 4 4 4], rfl, by decide⟩
    greys.pixel? ⟨0, 0⟩ = some (.opaqueOf 0 0 0) ∧ Color.white ≠ .clear ∧
      Color.white.approx (.opaqueOf 0 0 0) = false ∧
      (flood greys ⟨0, 0⟩ .white).1.pixel? ⟨1, 0⟩ = some .white ∧
      (flood greys ⟨0, 0⟩ .white).1.pixel? ⟨1, 1⟩ = some (.opaqueOf 4 4 4) ∧
      (Color.opaqueOf 2 2 2).approx (.opaqueOf 4 4 4) = true ∧
      flood (flood greys ⟨0, 0⟩ .white).1 ⟨0, 0⟩ .white = ((flood greys ⟨0, 0⟩ .white).1, 0) ∧
      ¬ greys.Contains ⟨2, 0⟩ ∧ flood greys ⟨2, 0⟩ .white = (greys, 0) := by
  intro greys
  obtain ⟨painted, left, -, -, again⟩ :=
    (flood_paints_region greys ⟨0, 0⟩ .white).2 (.opaqueOf 0 0 0) (by decide) (by decide)
      (by decide)
  have off : ¬ greys.Contains ⟨2, 0⟩ := by decide
  have beside : Region greys (.opaqueOf 0 0 0) ⟨0, 0⟩ ⟨1, 0⟩ :=
    ⟨by decide, .single ⟨by decide, by decide⟩⟩
  have other : ¬ Region greys (.opaqueOf 0 0 0) ⟨0, 0⟩ ⟨1, 1⟩ := fun inside =>
    absurd inside.matchesAt (by decide)
  refine ⟨by decide, by decide, by decide, painted _ beside, ?_, by decide, again, off,
    (flood_paints_region greys ⟨2, 0⟩ .white).1 (.inl off)⟩
  rw [left _ other]
  decide

end Paint
end BrushScript
