import BrushScript.Canvas

/-!
# Flood fill

From a seed, all cells that are reached by steps to the four neighbours through cells of nearly the
seed's colour are painted. The cells still to be looked at stand on a stack. Painting a cell takes
it out of the region, because the new colour is not near the old one; `matching_set_lt` says so, and
it is what makes the fill end.

No list of visited cells is kept, as the canvas itself tells which ones are left. A cell may stand
on the stack several times; it is painted, and counted, when it is met first. `spread` is therefore
given a proof that the new colour is not near the old one, and `flood` does nothing where there is
none.
-/

namespace BrushScript.Paint

/-- The four cells beside a cell. -/
def neighbours (p : Point) : List Point :=
  [⟨p.x, p.y - 1⟩, ⟨p.x, p.y + 1⟩, ⟨p.x - 1, p.y⟩, ⟨p.x + 1, p.y⟩]

/-- How many pixels have nearly the given colour. -/
def matching (c : Canvas) (target : Color) : Nat := c.pixels.countP (·.approx target)

/-- The cell lies on the canvas and has nearly the given colour. -/
def matchesAt (c : Canvas) (target : Color) (p : Point) : Bool := (c.pixel? p).any (·.approx target)

theorem matching_set_lt {c : Canvas} {target color : Color} {p : Point}
    (h : matchesAt c target p = true) (fresh : color.approx target = false) :
    matching (c.set p color) target < matching c target := by
  unfold matchesAt Canvas.pixel? at h
  split at h
  · next hp =>
    have hi := Canvas.index_lt hp
    rw [Array.getElem?_eq_getElem hi] at h
    simp only [Option.any_some] at h
    have pos : 0 < Array.countP (·.approx target) c.pixels :=
      Array.countP_pos_iff.mpr ⟨_, Array.getElem_mem hi, h⟩
    simp only [matching, Canvas.set, hp, if_true, Array.setIfInBounds_def, hi, dite_true,
      Array.countP_set, h, fresh, Bool.false_eq_true, if_false]
    omega
  · simp at h

/-- Paint the region that the cells of a stack open into, and count the painted cells. -/
def spread (target color : Color) (fresh : color.approx target = false) (c : Canvas)
    (stack : List Point) (painted : Nat) : Canvas × Nat :=
  match stack with
  | [] => (c, painted)
  | p :: rest =>
    if matchesAt c target p then
      spread target color fresh (c.set p color) (neighbours p ++ rest) (painted + 1)
    else spread target color fresh c rest painted
termination_by (matching c target, stack.length)
decreasing_by
  · next h => exact Prod.Lex.left _ _ (matching_set_lt h fresh)
  · exact Prod.Lex.right _ (by simp)

/-- Fill the region of a seed with a colour and count the painted cells. Nothing is painted from a
seed off the canvas, in the clear colour, or in a colour close to that of the seed. -/
def flood (c : Canvas) (seed : Point) (color : Color) : Canvas × Nat :=
  match c.pixel? seed with
  | none => (c, 0)
  | some target =>
    if color = .clear then (c, 0)
    else
      match h : color.approx target with
      | true => (c, 0)
      | false => spread target color h c [seed] 0

@[simp] theorem side_spread (target color : Color) (fresh : color.approx target = false)
    (c : Canvas) (stack : List Point) (painted : Nat) :
    (spread target color fresh c stack painted).1.side = c.side := by
  fun_induction spread target color fresh c stack painted with
  | case1 => rfl
  | case2 c painted p rest h ih => simp [ih]
  | case3 c painted p rest h ih => exact ih

@[simp] theorem side_flood (c : Canvas) (seed : Point) (color : Color) :
    (flood c seed color).1.side = c.side := by
  unfold flood
  split
  · rfl
  · split
    · rfl
    · split <;> simp

end BrushScript.Paint
