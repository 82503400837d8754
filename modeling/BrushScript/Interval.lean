import BrushScript.Integer

/-!
# Intervals and boxes of cells

A cell is a `Point` of the plane; an `Interval` holds the integers between two ends, both included,
and is empty when the ends are the wrong way round; a `Box` is an interval of columns and one of
rows. `Interval.mem_toList` and `Box.mem_cells` say that the lists hold exactly the members.

The ends are integers of any size. Where a drawing command computes them from numbers of 64 bits
they stop at the ends of that range (`widen`, `negate`), and where a canvas is painted they are cut
to what lies on it (`clip`), which makes the lists short.
-/

namespace BrushScript

/-- A cell: column `x`, counted rightwards, and row `y`, counted downwards. -/
structure Point where
  x : Int
  y : Int
  deriving DecidableEq, Repr, Inhabited

/-- The integers from `lo` to `hi`, both included. -/
structure Interval where
  lo : Int
  hi : Int
  deriving DecidableEq, Repr

namespace Interval

instance : Membership Int Interval := ⟨fun i n => i.lo ≤ n ∧ n ≤ i.hi⟩

theorem mem_def {i : Interval} {n : Int} : n ∈ i ↔ i.lo ≤ n ∧ n ≤ i.hi := Iff.rfl

instance (n : Int) (i : Interval) : Decidable (n ∈ i) := inferInstanceAs (Decidable (_ ∧ _))

/-- The interval with the given ends, in either order. -/
def between (a b : Int) : Interval := ⟨min a b, max a b⟩

/-- The interval grown by `margin` at both ends, which stop at the ends of the 64-bit range. -/
def widen (i : Interval) (margin : Int) : Interval :=
  ⟨Integer.saturate (i.lo - margin), Integer.saturate (i.hi + margin)⟩

/-- The numbers within `margin` of a centre. -/
def around (center margin : Int) : Interval := widen ⟨center, center⟩ margin

/-- The interval of the negated numbers, its ends kept in the 64-bit range. -/
def negate (i : Interval) : Interval := ⟨Integer.saturate (-i.hi), Integer.saturate (-i.lo)⟩

/-- The two intervals have a number in common. -/
def meets (i j : Interval) : Bool := max i.lo j.lo ≤ min i.hi j.hi

theorem meets_iff {i j : Interval} : i.meets j ↔ ∃ n, n ∈ i ∧ n ∈ j := by
  simp only [meets, decide_eq_true_eq, mem_def]
  constructor
  · intro h
    exact ⟨max i.lo j.lo, by omega⟩
  · rintro ⟨n, _⟩
    omega

/-- The part of the interval below `n` and not below zero. -/
def clip (i : Interval) (n : Nat) : Interval := ⟨max i.lo 0, min i.hi (n - 1)⟩

/-- The members in ascending order. -/
def toList (i : Interval) : List Int :=
  (List.range (i.hi + 1 - i.lo).toNat).map fun k : Nat => i.lo + k

@[simp] theorem mem_toList {i : Interval} {n : Int} : n ∈ i.toList ↔ n ∈ i := by
  simp only [toList, List.mem_map, List.mem_range, mem_def]
  constructor
  · rintro ⟨k, hk, rfl⟩
    omega
  · intro h
    exact ⟨(n - i.lo).toNat, by omega, by omega⟩

theorem mem_clip {i : Interval} {n : Nat} {m : Int} :
    m ∈ i.clip n ↔ m ∈ i ∧ 0 ≤ m ∧ m < n := by
  simp only [clip, mem_def]
  omega

end Interval

/-- The cells in an interval of columns and an interval of rows. -/
structure Box where
  columns : Interval
  rows : Interval
  deriving DecidableEq, Repr

namespace Box

instance : Membership Point Box := ⟨fun b p => p.x ∈ b.columns ∧ p.y ∈ b.rows⟩

theorem mem_def {b : Box} {p : Point} : p ∈ b ↔ p.x ∈ b.columns ∧ p.y ∈ b.rows := Iff.rfl

instance (p : Point) (b : Box) : Decidable (p ∈ b) := inferInstanceAs (Decidable (_ ∧ _))

/-- The square of cells within `margin` of a centre, in both directions. -/
def around (center : Point) (margin : Int) : Box :=
  ⟨.around center.x margin, .around center.y margin⟩

/-- The box that two opposite corners span. -/
def between (p q : Point) : Box := ⟨.between p.x q.x, .between p.y q.y⟩

/-- The part of the box on a square of side `n` at the origin. -/
def clip (b : Box) (n : Nat) : Box := ⟨b.columns.clip n, b.rows.clip n⟩

/-- The cells row by row. -/
def cells (b : Box) : List Point :=
  b.rows.toList.flatMap fun y => b.columns.toList.map fun x => ⟨x, y⟩

@[simp] theorem mem_cells {b : Box} {p : Point} : p ∈ b.cells ↔ p ∈ b := by
  simp only [cells, List.mem_flatMap, List.mem_map, Interval.mem_toList, mem_def]
  constructor
  · rintro ⟨y, hy, x, hx, rfl⟩
    exact ⟨hx, hy⟩
  · rintro ⟨hx, hy⟩
    exact ⟨p.y, hy, p.x, hx, rfl⟩

end Box
end BrushScript
