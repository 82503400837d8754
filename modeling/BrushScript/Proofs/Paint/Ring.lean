import BrushScript.Proofs.Paint.Arc
import BrushScript.Proofs.Paint.Circle
import BrushScript.Proofs.Paint.Flood

/-!
# A circle holds a fill

On a canvas of one colour, a fill from the centre of a circle drawn with the finest brush paints the
cells that the circle encloses and nothing else (`flood_circle`). These are the cells with `a² + a +
b² ≤ r²` for the greater distance `a` from the axes through the centre and the lesser one `b`. Two
facts make it so, and neither minds where the canvas ends:

* the outline is tight: a step out of the enclosed cells always ends on it (`neighbours_enclosed`);
* the enclosed cells hang together: each of them has a neighbour, also enclosed, on the way to the
  centre (`exists_inward`).

A fill steps to the four neighbours of a cell, never aslant. An outline may therefore go on from one
cell to the next across a corner and still hold the fill, and it does so wherever the arc moves in
by a column. `flood_circle_corner` shows the smallest such corner.

The region that a fill finds is defined by paths over matching cells. `region_center_iff` replaces
the paths by the inequality: one direction is an induction along the path, the other one on the
number of steps to the centre.
-/

namespace BrushScript.Paint

variable {c : Canvas} {target : Color} {center p q : Point} {radius : Nat}

/-! ## Enclosed cells

A cell is inside if its greater distance from the axes falls short of the column of its lesser one,
and on the outline if the two are the same. So no cell is both, and nothing is said about signs or
about which axis is which.
-/

/-- The offset of a cell from a centre. -/
def delta (center q : Point) : Point := ⟨q.x - center.x, q.y - center.y⟩

/-- The cell `q` lies inside the circle around a centre. -/
def Encloses (center : Point) (radius : Nat) (q : Point) : Prop :=
  let a := far (delta center q)
  let b := near (delta center q)
  a * a + a + b * b ≤ radius * radius

instance (center : Point) (radius : Nat) (q : Point) : Decidable (Encloses center radius q) :=
  inferInstanceAs (Decidable (_ ≤ _))

/-- The cell `q` lies on the outline of the circle around a centre. -/
def OnRing (center : Point) (radius : Nat) (q : Point) : Prop :=
  delta center q ∈ (Octant.ofRadius radius).outline

instance (center : Point) (radius : Nat) (q : Point) : Decidable (OnRing center radius q) :=
  inferInstanceAs (Decidable (_ ∈ _))

theorem Encloses.near_le (inside : Encloses center radius q) : near (delta center q) ≤ radius := by
  have sum : near (delta center q) * near (delta center q) ≤ radius * radius :=
    Nat.le_trans (Nat.le_add_left ..) inside
  exact Nat.mul_self_le_mul_self_iff.mp sum

theorem encloses_iff : Encloses center radius q ↔ near (delta center q) ≤ radius ∧
    far (delta center q) < midpointColumn radius (near (delta center q)) := by
  constructor
  · intro inside
    exact ⟨inside.near_le, (lt_midpointColumn_iff inside.near_le).mpr inside⟩
  · rintro ⟨le, left⟩
    exact (lt_midpointColumn_iff le).mp left

/-- A circle encloses what is nearer to both axes than an enclosed cell. -/
theorem Encloses.mono (inside : Encloses center radius q)
    (a : far (delta center p) ≤ far (delta center q))
    (b : near (delta center p) ≤ near (delta center q)) : Encloses center radius p :=
  Nat.le_trans (Nat.add_le_add (Nat.add_le_add (Nat.mul_le_mul a a) a) (Nat.mul_le_mul b b)) inside

theorem encloses_center (center : Point) (radius : Nat) : Encloses center radius center := by
  simp [Encloses, delta, far, near]

theorem Encloses.not_onRing (ordinary : specialArc? radius = none)
    (inside : Encloses center radius q) : ¬ OnRing center radius q := by
  intro on
  have left := (encloses_iff.mp inside).2
  have same := ((mem_outline_midpoint ordinary).mp on).2
  omega

/-! ## The outline is tight

A step changes one coordinate by one. Its effect on the two distances is the same for all four
directions once they are sorted by size.
-/

/-- A step takes one distance further by one, or neither of them further. -/
theorem neighbours_distances (center : Point) (beside : q ∈ neighbours p) :
    far (delta center q) = far (delta center p) + 1 ∧
        near (delta center q) = near (delta center p) ∨
      far (delta center q) = far (delta center p) ∧
        near (delta center q) = near (delta center p) + 1 ∨
      far (delta center q) ≤ far (delta center p) ∧
        near (delta center q) ≤ near (delta center p) := by
  simp only [neighbours, List.mem_cons, List.not_mem_nil, or_false] at beside
  rcases beside with rfl | rfl | rfl | rfl <;> simp only [far, near, delta] <;> omega

/-- From an enclosed cell, a step leads to an enclosed cell or onto the outline. -/
theorem neighbours_enclosed (ordinary : specialArc? radius = none)
    (inside : Encloses center radius p) (beside : q ∈ neighbours p) :
    Encloses center radius q ∨ OnRing center radius q := by
  have ordered := near_le_far (delta center q)
  obtain ⟨le, left⟩ := encloses_iff.mp inside
  rw [OnRing, mem_outline_midpoint ordinary, encloses_iff]
  rcases neighbours_distances center beside with ⟨a, b⟩ | ⟨a, b⟩ | ⟨a, b⟩
  · -- further out in the same row of the arc: at most up to its column
    rw [a, b]
    omega
  · -- a row further up, where the arc has come in by one column at most
    rw [a, b] at ordered ⊢
    have := le_midpointColumn_succ ordered inside
    omega
  · -- no further out in either
    exact .inl (encloses_iff.mp (inside.mono a b))

/-! ## The enclosed cells hang together

Towards the centre no distance grows, so a way from an enclosed cell to the centre stays among
enclosed cells. Nor does it leave the canvas, since the centre is on it.
-/

/-- How many steps a cell is away from a centre. -/
def steps (center q : Point) : Nat := (q.x - center.x).natAbs + (q.y - center.y).natAbs

/-- Every cell but the centre has a neighbour that is one step nearer to it, also on the canvas. -/
theorem exists_inward (home : c.Contains center) (on : c.Contains q) (away : q ≠ center) :
    ∃ p, c.Contains p ∧ q ∈ neighbours p ∧ steps center p + 1 = steps center q ∧
      far (delta center p) ≤ far (delta center q) ∧
      near (delta center p) ≤ near (delta center q) := by
  -- one step along the row, or along the column if the cell is straight above or below
  obtain ⟨x, y⟩ := q
  obtain ⟨u, v⟩ := center
  simp only [Canvas.Contains, Point.mk.injEq, steps, delta, far, near, ne_eq] at *
  rcases Int.lt_trichotomy x u with left | column | right
  · exact ⟨⟨x + 1, y⟩, by dsimp only; omega, by simp [neighbours], by dsimp only; omega⟩
  · rcases Int.lt_trichotomy y v with above | row | below
    · exact ⟨⟨x, y + 1⟩, by dsimp only; omega, by simp [neighbours], by dsimp only; omega⟩
    · exact absurd ⟨column, row⟩ away
    · exact ⟨⟨x, y - 1⟩, by dsimp only; omega, by simp [neighbours], by dsimp only; omega⟩
  · exact ⟨⟨x - 1, y⟩, by dsimp only; omega, by simp [neighbours], by dsimp only; omega⟩

/-! ## The region of the centre

All that is used of the canvas is which cells match the seed's colour: all but those on the outline.
-/

section

variable (ordinary : specialArc? radius = none) (home : c.Contains center)
  (alone : ∀ q, matchesAt c target q = true ↔ c.Contains q ∧ ¬ OnRing center radius q)

include ordinary home alone

/-- If nothing but the outline has another colour, the enclosed cells are reached from the
centre. -/
theorem region_of_encloses (on : c.Contains q) (inside : Encloses center radius q) :
    Region c target center q := by
  have plain {q : Point} (on : c.Contains q) (inside : Encloses center radius q) :
      matchesAt c target q = true := (alone q).mpr ⟨on, inside.not_onRing ordinary⟩
  induction n : steps center q generalizing q with -- on the number of steps from the centre
  | zero =>
    have same : q = center := by
      obtain ⟨x, y⟩ := q
      obtain ⟨u, v⟩ := center
      simp only [steps, Point.mk.injEq] at n ⊢
      omega
    exact ⟨plain home (encloses_center ..), same ▸ .refl⟩
  | succ n ih =>
    have away : q ≠ center := by
      rintro rfl
      simp [steps] at n
    obtain ⟨p, before, beside, one, a, b⟩ := exists_inward home on away
    obtain ⟨first, path⟩ := ih before (inside.mono a b) (by omega)
    exact ⟨first, path.tail ⟨beside, plain on inside⟩⟩

/-- If nothing but the outline has another colour, the region of the centre is what the circle
encloses: no way leads out over the outline. -/
theorem region_center_iff :
    Region c target center q ↔ c.Contains q ∧ Encloses center radius q := by
  constructor
  · -- the path began inside, and a step out would have ended on the outline
    rintro ⟨first, path⟩
    induction path with
    | refl => exact ⟨home, encloses_center ..⟩
    | @tail p q _ step ih =>
      obtain ⟨on, off⟩ := (alone q).mp step.2
      rcases neighbours_enclosed ordinary ih.2 step.1 with enclosed | ring
      · exact ⟨on, enclosed⟩
      · exact absurd ring off
  · -- an enclosed cell is reached on the way out from the centre
    rintro ⟨on, inside⟩
    exact region_of_encloses ordinary home alone on inside

end

/-! ## Fills from the centre

The outline drawn with the finest brush has a colour that is not near the background, so the cells
that match are those off the outline. What is left is to put the three parts together.
-/

theorem contains_circle {size : Int} {radius : Int} {color : Color} :
    (circle c center radius size color).Contains q ↔ c.Contains q :=
  Canvas.contains_congr (side_circle ..)

section

variable {background outline : Color} {radius : Int64}
  (plain : ∀ q, c.Contains q → c.pixel? q = some background) (home : c.Contains center)
  (positive : 1 ≤ radius.toInt) (draws : outline ≠ .clear)

include home positive draws

/-- The finest brush paints the outline itself. -/
theorem pixel?_circle_fine (q : Point) : (circle c center radius.toInt 1 outline).pixel? q =
    if c.Contains q ∧ OnRing center radius.toInt.toNat q then some outline else c.pixel? q := by
  have covers (d : Point) :
      Covers (1 : Int64).toInt ⟨center.x + d.x, center.y + d.y⟩ q ↔ delta center q = d := by
    have fine : reach (1 : Int64).toInt = 0 := by decide
    obtain ⟨x, y⟩ := d
    simp only [Covers, fine, delta, Point.mk.injEq]
    omega
  have painted := pixel?_circle draws home radius 1 q
  simp only [exists_mem_cellsAround, covers, exists_eq_right', circleOutline,
    if_pos (show 0 < radius.toInt from positive)] at painted
  exact painted

include plain

/-- On a canvas of one colour, the cells off the outline keep it, and they alone if the outline has
another. -/
theorem matchesAt_circle_fine (stands : outline.approx background = false) (q : Point) :
    matchesAt (circle c center radius.toInt 1 outline) background q = true ↔
      c.Contains q ∧ ¬ OnRing center radius.toInt.toNat q := by
  by_cases on : c.Contains q
  · -- a cell of the canvas matches unless it has been drawn on
    rw [matchesAt, pixel?_circle_fine home positive draws]
    by_cases wall : OnRing center radius.toInt.toNat q
    · rw [if_pos ⟨on, wall⟩, Option.any_some, stands]
      simp only [Bool.false_eq_true, wall, not_true_eq_false, and_false]
    · rw [if_neg fun both => wall both.2, plain q on, Option.any_some, Color.approx_refl]
      simp only [on, wall, not_false_eq_true, and_self]
  · -- a cell off the canvas matches nothing
    have off : ¬ matchesAt (circle c center radius.toInt 1 outline) background q = true :=
      fun same => on (contains_circle.mp (contains_of_matchesAt same))
    exact iff_of_false off fun both => on both.1

end

/-- A fill from the centre of a finely drawn circle finds all enclosed cells of the canvas untouched
and paints them, and nothing else. -/
theorem flood_circle {background outline paint : Color} {radius : Int64}
    (plain : ∀ q, c.Contains q → c.pixel? q = some background) (home : c.Contains center)
    (positive : 1 ≤ radius.toInt) (ordinary : radius.toInt ≠ 3 ∧ radius.toInt ≠ 4)
    (draws : outline ≠ .clear) (stands : outline.approx background = false)
    (paints : paint ≠ .clear) (fresh : paint.approx background = false) :
    let ring := circle c center radius.toInt 1 outline
    (∀ q, c.Contains q → Encloses center radius.toInt.toNat q → ring.pixel? q = some background) ∧
      ∀ q, (flood ring center paint).1.pixel? q =
        if c.Contains q ∧ Encloses center radius.toInt.toNat q then some paint
        else ring.pixel? q := by
  intro ring
  have midpoint : specialArc? radius.toInt.toNat = none := by
    unfold specialArc?
    split <;> first | rfl | omega
  have untouched (q : Point) (on : c.Contains q) (inside : Encloses center radius.toInt.toNat q) :
      ring.pixel? q = some background := by
    have drawn := pixel?_circle_fine home positive draws q
    rwa [if_neg fun both => inside.not_onRing midpoint both.2, plain q on] at drawn
  have alone (q : Point) : matchesAt ring background q = true ↔
      ring.Contains q ∧ ¬ OnRing center radius.toInt.toNat q := by
    rw [contains_circle]
    exact matchesAt_circle_fine plain home positive draws stands q
  refine ⟨untouched, fun q => ?_⟩
  rw [pixel?_flood (untouched center home (encloses_center ..)) paints fresh]
  simp only [region_center_iff midpoint (contains_circle.mpr home) alone, ring, contains_circle]

/-- A circle of which the canvas holds one corner only: the cell on the diagonal beside the centre
is filled, and the one behind it, where the outline is closed only aslant, is not. -/
theorem flood_circle_corner :
    let c := Canvas.filled 10 .white
    let ring := circle c ⟨0, 0⟩ (2 : Int64).toInt 1 .black
    (∀ q, c.Contains q → c.pixel? q = some .white) ∧ c.Contains ⟨0, 0⟩ ∧ 1 ≤ (2 : Int64).toInt ∧
      ((2 : Int64).toInt ≠ 3 ∧ (2 : Int64).toInt ≠ 4) ∧
      Color.black ≠ .clear ∧ Color.black.approx .white = false ∧
      Color.opaqueOf 255 0 0 ≠ .clear ∧ (Color.opaqueOf 255 0 0).approx .white = false ∧
      (flood ring ⟨0, 0⟩ (.opaqueOf 255 0 0)).1.pixel? ⟨1, 1⟩ = some (.opaqueOf 255 0 0) ∧
      (flood ring ⟨0, 0⟩ (.opaqueOf 255 0 0)).1.pixel? ⟨2, 2⟩ = ring.pixel? ⟨2, 2⟩ := by
  intro c ring
  have plain (q : Point) (on : c.Contains q) : c.pixel? q = some .white := Canvas.pixel?_filled on
  have filled (q : Point) : (flood ring ⟨0, 0⟩ (.opaqueOf 255 0 0)).1.pixel? q =
      if c.Contains q ∧ Encloses ⟨0, 0⟩ (2 : Int64).toInt.toNat q then some (.opaqueOf 255 0 0)
      else ring.pixel? q :=
    (flood_circle plain (by decide) (by decide) (by decide) (by decide) (by decide) (by decide)
      (by decide)).2 q
  refine ⟨plain, by decide, by decide, by decide, by decide, by decide, by decide, by decide, ?_,
    ?_⟩
  · rw [filled, if_pos (by decide)]
  · rw [filled, if_neg (by decide)]

end BrushScript.Paint
