import BrushScript.Paint.Octant
import BrushScript.Proofs.Arithmetic

/-!
# The arc test is exact

Going up an arc the columns never grow (`column_antitone`), so the two bisections of `rowsWithin`
find the rows whose columns lie in an interval: `hits_iff`. A box is touched exactly if it has a
cell of the outline in it: `touches_iff`. That takes the eight reflections from the arc to the box,
which is right for boxes that were cut off at the ends of the 64-bit range too, because the arc does
not reach so far.

The rows of an arc are natural numbers and the interval that the bisections answer is one of
integers. It is empty if the first row whose column lies in the interval comes after the last one,
and then its ends are the wrong way round. The test has to be right there as well, since a pixel far
from the outline leads to just such intervals.

The outline is the sorted list of the reflections without repeats. The order is the one by columns
(`Before`), and being strict it says that no cell is listed twice: `pairwise_outline`.
-/

namespace BrushScript

namespace Interval

/-- The negated interval holds the negated numbers, among those with a 64-bit absolute value. -/
theorem mem_negate {i : Interval} {n : Int} (small : n.natAbs ≤ 0x7fffffffffffffff)
    (hi : -0x7fffffffffffffff ≤ i.hi) : n ∈ i.negate ↔ -n ∈ i := by
  simp only [negate, mem_def, Integer.saturate, Integer.least, Integer.greatest]
  omega

end Interval

namespace Paint

/-! ## Columns of arcs

The columns of a midpoint arc come from a formula and those of the two listed arcs from a table,
behind whose end the column is `-1`. Neither ever grows from one row to the next.
-/

theorem getD_antitone {columns : List Int} (falls : columns.Pairwise (· ≥ ·))
    (low : ∀ x ∈ columns, -1 ≤ x) {y z : Nat} (le : y ≤ z) :
    columns[z]?.getD (-1) ≤ columns[y]?.getD (-1) := by
  -- the table is in descending order, and what stands for its missing entries is least of all
  rcases Nat.lt_or_ge z columns.length with inside | past
  · rw [List.getElem?_eq_getElem inside, List.getElem?_eq_getElem (Nat.lt_of_le_of_lt le inside)]
    rcases Nat.lt_or_eq_of_le le with lt | rfl
    · exact List.pairwise_iff_getElem.mp falls y z _ inside lt
    · exact Int.le_refl _
  · rw [List.getElem?_eq_none past]
    rcases Nat.lt_or_ge y columns.length with inside | past
    · rw [List.getElem?_eq_getElem inside]
      exact low _ (List.getElem_mem inside)
    · simp [List.getElem?_eq_none past]

theorem midpointColumn_antitone (radius : Nat) {y z : Nat} (le : y ≤ z) :
    midpointColumn radius z ≤ midpointColumn radius y := by
  have rows : min y radius ≤ min z radius := by omega
  have squares : 4 * min y radius * min y radius ≤ 4 * min z radius * min z radius :=
    Nat.mul_le_mul (Nat.mul_le_mul_left 4 rows) rows
  have under := Nat.succ_le_succ (Nat.sub_le_sub_left squares (4 * radius * radius))
  simp only [midpointColumn, Arithmetic.sqrt_eq]
  exact Nat.div_le_div_right (Nat.succ_le_succ (Nat.sqrt_le_sqrt under))

/-- Only the arcs of two radii are listed. -/
theorem specialArc?_eq_none_or (radius : Nat) :
    specialArc? radius = none ∨ radius = 3 ∨ radius = 4 := by
  unfold specialArc?
  split
  · exact .inr (.inl rfl)
  · exact .inr (.inr rfl)
  · exact .inl rfl

theorem arcColumn_midpoint {radius : Nat} (ordinary : specialArc? radius = none) (y : Nat) :
    arcColumn radius y = midpointColumn radius y := by
  rw [arcColumn, ordinary]

/-- Columns never grow going up, in listed arcs and others. -/
theorem arcColumn_antitone (radius : Nat) {y z : Nat} (le : y ≤ z) :
    arcColumn radius z ≤ arcColumn radius y := by
  rcases specialArc?_eq_none_or radius with ordinary | rfl | rfl
  · rw [arcColumn_midpoint ordinary, arcColumn_midpoint ordinary]
    exact Int.ofNat_le.mpr (midpointColumn_antitone radius le)
  · exact getD_antitone (show ([3, 2] : List Int).Pairwise (· ≥ ·) by decide) (by decide) le
  · exact getD_antitone (show ([4, 4, 3] : List Int).Pairwise (· ≥ ·) by decide) (by decide) le

namespace Octant

theorem column_antitone (arc : Octant) {y z : Nat} (le : y ≤ z) : arc.column z ≤ arc.column y :=
  arcColumn_antitone arc.radius le

/-! ## The arc in a box

A bisection finds the first row whose column has a property that lesser columns have too. Two of
them give the rows whose columns lie in an interval: those from the first that is not past its right
end up to the last before its left end.
-/

/-- A condition that lesser columns have too begins at a row or before it exactly if the column of
the row has it. -/
theorem firstRow_le_iff (arc : Octant) {p : Int → Bool}
    (falls : ∀ {a b : Int}, a ≤ b → p b = true → p a = true) {y : Nat} (le : y ≤ arc.lastRow) :
    arc.firstRow p ≤ y ↔ p (arc.column y) = true :=
  Arithmetic.firstWhere_le_iff (fun _ _ le => falls (arc.column_antitone le)) (Nat.zero_le y)
    (Nat.lt_succ_of_le le)

theorem mem_rowsWithin {arc : Octant} {columns : Interval} {n : Int} :
    n ∈ arc.rowsWithin columns ↔ ∃ y : Nat, n = y ∧ y ≤ arc.lastRow ∧ arc.column y ∈ columns := by
  have first {y : Nat} (le : y ≤ arc.lastRow) :
      (arc.firstRow fun x => x ≤ columns.hi) ≤ y ↔ arc.column y ≤ columns.hi := by
    rw [arc.firstRow_le_iff (fun le h => by simp only [decide_eq_true_eq] at *; omega) le,
      decide_eq_true_eq]
  have last {y : Nat} (le : y ≤ arc.lastRow) :
      (arc.firstRow fun x => x < columns.lo) ≤ y ↔ arc.column y < columns.lo := by
    rw [arc.firstRow_le_iff (fun le h => by simp only [decide_eq_true_eq] at *; omega) le,
      decide_eq_true_eq]
  simp only [rowsWithin, Interval.mem_def]
  constructor
  · -- a row between the two ends is a row of the arc, as the bisections end behind the last at most
    rintro ⟨above, below⟩
    obtain ⟨y, rfl⟩ := Int.eq_ofNat_of_zero_le (Int.le_trans (Int.natCast_nonneg _) above)
    have le : y ≤ arc.lastRow := by omega
    have := first le
    have := last le
    exact ⟨y, rfl, le, by omega, by omega⟩
  · -- a row of the arc whose column lies in the interval is not left out at either end
    rintro ⟨y, rfl, le, low, high⟩
    have := first le
    have := last le
    omega

/-- The arc test on any box, one with its ends the wrong way round included. -/
theorem hits_iff {arc : Octant} {b : Box} :
    arc.hits b ↔ ∃ y : Nat, y ≤ arc.lastRow ∧ arc.column y ∈ b.columns ∧ (y : Int) ∈ b.rows := by
  rw [hits, Interval.meets_iff]
  constructor
  · rintro ⟨_, within, rows⟩
    obtain ⟨y, rfl, le, columns⟩ := mem_rowsWithin.mp within
    exact ⟨y, le, columns, rows⟩
  · rintro ⟨y, le, columns, rows⟩
    exact ⟨y, mem_rowsWithin.mpr ⟨y, rfl, le, columns⟩, rows⟩

/-! ## The outline in order -/

/-- The cell `p` stands before the cell `q` in a list by columns, and by rows within a column. -/
def Before (p q : Point) : Prop := p.x < q.x ∨ p.x = q.x ∧ p.y < q.y

theorem Before.trans {p q r : Point} (first : Before p q) (second : Before q r) : Before p r := by
  simp only [Before] at *
  omega

theorem precedes_iff {p q : Point} : precedes p q = true ↔ Before p q ∨ p = q := by
  obtain ⟨x, y⟩ := p
  obtain ⟨u, v⟩ := q
  simp only [precedes, Bool.or_eq_true, decide_eq_true_eq, Bool.and_eq_true, beq_iff_eq, Before,
    Point.mk.injEq]
  omega

theorem precedes_trans (p q r : Point) (first : precedes p q = true)
    (second : precedes q r = true) : precedes p r = true := by
  rw [precedes_iff] at *
  rcases first with before | rfl
  · rcases second with before' | rfl
    · exact .inl (before.trans before')
    · exact .inl before
  · exact second

theorem precedes_total (p q : Point) : (precedes p q || precedes q p) = true := by
  simp only [precedes, Bool.or_eq_true, decide_eq_true_eq, Bool.and_eq_true, beq_iff_eq]
  omega

theorem mem_dropRepeats {l : List Point} {p : Point} : p ∈ dropRepeats l ↔ p ∈ l := by
  fun_induction dropRepeats l with
  | case1 => rfl
  | case2 => rfl
  | case3 q rest ih => simp [ih]
  | case4 q r rest differ ih => rw [List.mem_cons, ih, ← List.mem_cons]

/-- A list in order is in strict order without its repeats. -/
theorem pairwise_dropRepeats {l : List Point} (sorted : l.Pairwise fun p q => precedes p q = true) :
    (dropRepeats l).Pairwise Before := by
  fun_induction dropRepeats l with
  | case1 => exact .nil
  | case2 p => exact List.pairwise_singleton ..
  | case3 q rest ih => exact ih sorted.tail
  | case4 p q rest differ ih =>
    -- the head is not listed again, but may have stood before equal cells further on
    obtain ⟨first, later⟩ := List.pairwise_cons.mp sorted
    have next : Before p q := (precedes_iff.mp (first q List.mem_cons_self)).resolve_right differ
    refine List.pairwise_cons.mpr ⟨fun r mem => ?_, ih later⟩
    rcases List.mem_cons.mp (mem_dropRepeats.mp mem) with rfl | behind
    · exact next
    · rcases precedes_iff.mp ((List.pairwise_cons.mp later).1 r behind) with after | rfl
      · exact Before.trans next after
      · exact next

/-- An outline is in strict order, so that it has no cell twice. -/
theorem pairwise_outline (arc : Octant) : arc.outline.Pairwise Before :=
  pairwise_dropRepeats (List.pairwise_mergeSort precedes_trans precedes_total _)

/-! ## The outline in a box -/

theorem mem_outline_cells {arc : Octant} {p : Point} :
    p ∈ arc.outline ↔ ∃ d ∈ arc.cells, p ∈ reflections d := by
  rw [outline, mem_dropRepeats, List.mem_mergeSort, List.mem_flatMap]

/-- The outline has the eight reflections of the cells of the arc. -/
theorem mem_outline {arc : Octant} {p : Point} :
    p ∈ arc.outline ↔ ∃ y : Nat, y ≤ arc.lastRow ∧ p ∈ reflections ⟨arc.column y, y⟩ := by
  simp only [mem_outline_cells, cells, List.mem_map, List.mem_range, Nat.lt_succ_iff]
  constructor
  · rintro ⟨_, ⟨y, le, rfl⟩, mem⟩
    exact ⟨y, le, mem⟩
  · rintro ⟨y, le, mem⟩
    exact ⟨_, ⟨y, le, rfl⟩, mem⟩

/-- The box has one of the reflections of a cell in it exactly if the cell lies in one of the
reflections of the box. -/
theorem exists_reflection_iff {b : Box} {p : Point} (wide : p.x.natAbs ≤ 0x7fffffffffffffff)
    (high : p.y.natAbs ≤ 0x7fffffffffffffff) (right : -0x7fffffffffffffff ≤ b.columns.hi)
    (bottom : -0x7fffffffffffffff ≤ b.rows.hi) :
    (∃ q ∈ reflections p, q ∈ b) ↔ ∃ xs ∈ [b.columns, b.columns.negate],
      ∃ ys ∈ [b.rows, b.rows.negate], (p.x ∈ xs ∧ p.y ∈ ys) ∨ (p.x ∈ ys ∧ p.y ∈ xs) := by
  simp only [reflections, Box.mem_def, List.mem_cons, List.not_mem_nil, or_false,
    exists_eq_or_imp, exists_eq_left, Interval.mem_negate wide right,
    Interval.mem_negate wide bottom, Interval.mem_negate high right,
    Interval.mem_negate high bottom]
  -- eight reflections on one side, two ways for each axis to be negated or not on the other
  grind

/-- A box is touched exactly if a cell of the outline lies in it. -/
theorem touches_iff {arc : Octant} {b : Box}
    (small : ∀ y ≤ arc.lastRow, (arc.column y).natAbs ≤ 0x7fffffffffffffff ∧
      y ≤ 0x7fffffffffffffff)
    (right : -0x7fffffffffffffff ≤ b.columns.hi) (bottom : -0x7fffffffffffffff ≤ b.rows.hi) :
    arc.touches b ↔ ∃ p ∈ arc.outline, p ∈ b := by
  have reflected {y : Nat} (le : y ≤ arc.lastRow) :=
    exists_reflection_iff (p := ⟨arc.column y, y⟩) (small y le).1 (small y le).2 right bottom
  simp only [touches_eq_any_hits, List.any_eq_true, Bool.or_eq_true, hits_iff, mem_outline]
  constructor
  · rintro ⟨xs, xs_mem, ys, ys_mem, ⟨y, le, column, row⟩ | ⟨y, le, column, row⟩⟩
    · -- the cell of the arc lies in the box
      obtain ⟨q, mem, inside⟩ := (reflected le).mpr ⟨xs, xs_mem, ys, ys_mem, .inl ⟨column, row⟩⟩
      exact ⟨q, ⟨y, le, mem⟩, inside⟩
    · -- the cell lies in the box mirrored at the diagonal
      obtain ⟨q, mem, inside⟩ := (reflected le).mpr ⟨xs, xs_mem, ys, ys_mem, .inr ⟨column, row⟩⟩
      exact ⟨q, ⟨y, le, mem⟩, inside⟩
  · rintro ⟨q, ⟨y, le, mem⟩, inside⟩
    obtain ⟨xs, xs_mem, ys, ys_mem, straight | swapped⟩ := (reflected le).mp ⟨q, mem, inside⟩
    · exact ⟨xs, xs_mem, ys, ys_mem, .inl ⟨y, le, straight⟩⟩
    · exact ⟨xs, xs_mem, ys, ys_mem, .inr ⟨y, le, swapped⟩⟩

end Octant
end Paint
end BrushScript
