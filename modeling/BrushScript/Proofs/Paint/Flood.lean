import BrushScript.Paint.Flood
import Mathlib.Logic.Relation

/-!
# A fill paints the region of its seed

`Region c target p q` says that steps to neighbours, all on cells of nearly the colour `target`,
lead from the cell `p` to the cell `q`. Painting a cell takes it out of all regions; what was
reached through it is reached from its neighbours, which go on the stack: `exists_region_cons`. So
the cells that the stack opens into are the ones that are painted (`pixel?_spread`), and a fill
paints the region of its seed and nothing else (`pixel?_flood`).

The regions are those of the canvas at hand, which changes with every cell that is painted. That is
why the loop's lemma holds from any canvas and any stack, and why it needs that the new colour is
not near the old one: a cell that has been painted is not painted again.
-/

namespace BrushScript.Paint

variable {c : Canvas} {target color : Color} {p q : Point} {stack rest : List Point}

/-! ## Cells of a colour

Whether a cell has nearly the colour is all that the loop looks at. A cell off the canvas has no
colour.
-/

theorem matchesAt_iff : matchesAt c target p = true ↔
    ∃ d, c.pixel? p = some d ∧ d.approx target = true := by
  rw [matchesAt, Option.any_eq_true]

theorem contains_of_matchesAt (h : matchesAt c target p = true) : c.Contains p := by
  obtain ⟨d, pixel, -⟩ := matchesAt_iff.mp h
  rw [← Canvas.isSome_pixel?, pixel]
  rfl

/-- A cell that is painted does not have the old colour any more. -/
theorem matchesAt_set (fresh : color.approx target = false) :
    matchesAt (c.set p color) target q = true ↔ q ≠ p ∧ matchesAt c target q = true := by
  simp only [matchesAt, Canvas.pixel?_set]
  by_cases same : q = p
  · subst same
    by_cases on : c.Contains q
    · simp [on, fresh]
    · have off : c.pixel? q = none := by
        rw [← Option.not_isSome_iff_eq_none, Canvas.isSome_pixel?]
        exact on
      simp [on, off]
  · simp [same]

/-! ## Regions

A way may go through a cell more than once, and its first cell is on the stack. Painting the top of
the stack cuts every way through it; the piece of the way behind its last visit begins with a
neighbour.
-/

/-- From one cell to a neighbour of nearly the given colour. -/
def Spreads (c : Canvas) (target : Color) (p q : Point) : Prop :=
  q ∈ neighbours p ∧ matchesAt c target q = true

/-- The cell `q` is reached from `p` over cells of nearly the given colour, both included. -/
def Region (c : Canvas) (target : Color) (p q : Point) : Prop :=
  matchesAt c target p = true ∧ Relation.ReflTransGen (Spreads c target) p q

/-- Painting opens no new ways. -/
theorem Region.of_set {r : Point} (fresh : color.approx target = false)
    (h : Region (c.set r color) target p q) : Region c target p q := by
  obtain ⟨first, path⟩ := h
  have old : Spreads (c.set r color) target ≤ Spreads c target := by
    intro a b step
    exact ⟨step.1, ((matchesAt_set fresh).mp step.2).2⟩
  exact ⟨((matchesAt_set fresh).mp first).2, Relation.ReflTransGen.mono old _ _ path⟩

/-- A way from the top of the stack or from below leads to the top, or it can be shortened to one
that leaves out the top and starts beside it or below. -/
theorem exists_region_cons (fresh : color.approx target = false)
    (top : matchesAt c target p = true) :
    (∃ a ∈ p :: rest, Region c target a q) ↔
      q = p ∨ ∃ a ∈ neighbours p ++ rest, Region (c.set p color) target a q := by
  constructor
  · rintro ⟨a, mem, first, path⟩
    -- the way grows by one cell, which is the top or is still to be painted
    induction path with
    | refl =>
      by_cases same : a = p
      · exact .inl same
      · have below : a ∈ rest := by simpa [same] using mem
        have kept := (matchesAt_set fresh).mpr ⟨same, first⟩
        exact .inr ⟨a, List.mem_append_right _ below, kept, .refl⟩
    | @tail b q _ step ih =>
      by_cases same : q = p
      · exact .inl same
      have kept := (matchesAt_set fresh).mpr ⟨same, step.2⟩
      right
      rcases ih with rfl | ⟨a', mem', first', path'⟩
      · -- the way comes from the top itself, so it can start here
        exact ⟨q, List.mem_append_left _ step.1, kept, .refl⟩
      · exact ⟨a', mem', first', path'.tail ⟨step.1, kept⟩⟩
  · -- a way in the painted canvas is one in the canvas before
    rintro (rfl | ⟨a, mem, region⟩)
    · exact ⟨q, List.mem_cons_self, top, .refl⟩
    · have old := region.of_set fresh
      rcases List.mem_append.mp mem with beside | below
      · exact ⟨p, List.mem_cons_self, top, .head ⟨beside, old.1⟩ old.2⟩
      · exact ⟨a, List.mem_cons_of_mem p below, old⟩

/-! ## Fills

By the loop's own recursion: the stack is empty, its top has the colour and is painted, or its top
does not have it and opens into nothing.
-/

open Classical in
/-- The cells that the stack opens into are painted, and no others. -/
theorem pixel?_spread (target color : Color) (fresh : color.approx target = false) (c : Canvas)
    (stack : List Point) (painted : Nat) (q : Point) :
    (spread target color fresh c stack painted).1.pixel? q =
      if ∃ p ∈ stack, Region c target p q then some color else c.pixel? q := by
  fun_induction spread target color fresh c stack painted with
  | case1 => simp
  | case2 c painted p rest top ih =>
    rw [ih, Canvas.pixel?_set]
    simp only [exists_region_cons fresh top]
    by_cases same : q = p
    · simp [same, contains_of_matchesAt top]
    · simp [same]
  | case3 c painted p rest other ih =>
    have none : ¬ Region c target p q := fun region => other region.1
    simp only [ih, List.mem_cons, exists_eq_or_imp, none, false_or]

open Classical in
/-- A fill paints the region of its seed, and nothing else. -/
theorem pixel?_flood {seed : Point} (here : c.pixel? seed = some target) (paints : color ≠ .clear)
    (fresh : color.approx target = false) (q : Point) :
    (flood c seed color).1.pixel? q =
      if Region c target seed q then some color else c.pixel? q := by
  unfold flood
  rw [here]
  dsimp only
  rw [if_neg paints]
  split
  · next same => cases same.symm.trans fresh
  · next other =>
    rw [pixel?_spread]
    simp only [List.mem_singleton, exists_eq_left]

/-- A fill changes nothing if the seed is off the canvas or the colour is clear or near the seed's
own. -/
theorem flood_eq_self {seed : Point} (still : ∀ target, c.pixel? seed = some target →
    color = .clear ∨ color.approx target = true) : flood c seed color = (c, 0) := by
  unfold flood
  split
  · rfl
  · next target here =>
    split
    · rfl
    · next paints =>
      split
      · rfl
      · next fresh =>
        rcases still target here with clears | near
        · exact absurd clears paints
        · cases near.symm.trans fresh

end BrushScript.Paint
