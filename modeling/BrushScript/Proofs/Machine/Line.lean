import BrushScript.Machine.Command
import BrushScript.Proofs.Paint.Stamp
import Mathlib.Data.Nat.Find

/-!
# The cells of a line

A line starts at the robot and takes one cell after the other (`lineCell`). It is drawn over its
cells (`drawCells_eq_drawn`), up to the first one off the canvas (`drawCells_eq_left`). Its length
does not matter beyond the side of the canvas, for by then it has left: `drawLine_eq_min` replaces
a length of any size by one that is no greater than the side and one.

The loop stamps a cell and moves on, so its state after `k` rounds can be written down at once:
`Machine.drawn` is the machine with the first `k` cells stamped and the robot on the last of them.
`drawCells_add` says that the loop gets there, as long as these cells are on the canvas, and goes on
from there; the two ways in which it can end follow from it.
-/

namespace BrushScript.Machine

open Syntax

variable {m : Machine} {q step : Point}

/-! ## Cells

The cells of a line as a function of their number. The loop knows only the cell it is at, so its
steps are matched by `lineCell_succ`: the line behind its first cell is a line as well.
-/

/-- The cell of a line some steps away from its first one. -/
def lineCell (q step : Point) (k : Nat) : Point := ⟨q.x + k * step.x, q.y + k * step.y⟩

/-- The first cells of a line. -/
def lineCells (q step : Point) (n : Nat) : List Point := (List.range n).map (lineCell q step)

@[simp] theorem lineCell_zero (q step : Point) : lineCell q step 0 = q := by
  simp [lineCell]

/-- Behind its first cell a line is the line that starts one step further. -/
theorem lineCell_succ (q step : Point) (k : Nat) :
    lineCell q step (k + 1) = lineCell ⟨q.x + step.x, q.y + step.y⟩ step k := by
  simp only [lineCell, Int.natCast_add, Int.natCast_one, Int.add_mul, Int.one_mul, Point.mk.injEq]
  omega

theorem lineCell_succ_sub (q step : Point) (k : Nat) :
    (⟨(lineCell q step (k + 1)).x - step.x, (lineCell q step (k + 1)).y - step.y⟩ : Point) =
      lineCell q step k := by
  simp only [lineCell, Int.natCast_add, Int.natCast_one, Int.add_mul, Int.one_mul, Point.mk.injEq]
  omega

theorem lineCells_succ (q step : Point) (n : Nat) :
    lineCells q step (n + 1) = q :: lineCells ⟨q.x + step.x, q.y + step.y⟩ step n := by
  have shift : lineCell q step ∘ Nat.succ = lineCell ⟨q.x + step.x, q.y + step.y⟩ step :=
    funext (lineCell_succ q step)
  rw [lineCells, List.range_succ_eq_map, List.map_cons, List.map_map, lineCell_zero, shift]
  rfl

/-- A line that does not stay on a canvas has a first cell off it. -/
theorem exists_first_off {c : Canvas} (leaves : ∃ k, ¬ c.Contains (lineCell q step k)) :
    ∃ k, (∀ j < k, c.Contains (lineCell q step j)) ∧ ¬ c.Contains (lineCell q step k) :=
  ⟨Nat.find leaves, fun _ lt => not_not.mp (Nat.find_min leaves lt), Nat.find_spec leaves⟩

/-! ## The course of a line

What the command checks before it draws. The direction and the length come out as the numbers that
they are; that they pass the checks is said again only where something depends on it.
-/

theorem direction_eq_of_ok {c : Command} {dx dy : Int64}
    (ok : direction c dx dy = .ok step) : step = ⟨dx.toInt, dy.toInt⟩ := by
  unfold direction at ok
  split at ok
  · cases ok
    rfl
  · cases ok

theorem positive_eq_of_ok {c : Command} {extent : Extent} {n : Int64} {length : Int}
    (ok : positive c extent n = .ok length) : length = n.toInt := by
  unfold positive at ok
  split at ok
  · cases ok
    rfl
  · cases ok

/-- A line has a course if its direction is one and moves, its length is positive, and there is a
robot. -/
theorem lineCourse_eq_ok_iff {dx dy distance : Int64} {length : Int} :
    m.lineCourse dx dy distance = .ok (q, step, length) ↔
      direction .drawLine dx dy = .ok step ∧ step ≠ ⟨0, 0⟩ ∧
        positive .drawLine .distance distance = .ok length ∧ m.pointer = some q := by
  unfold lineCourse position
  -- the direction is refused, or does not move
  cases direction .drawLine dx dy with
  | error fault => simp [bind, Except.bind]
  | ok step' =>
    by_cases still : step' = ⟨0, 0⟩
    · simp [bind, Except.bind, still]
      rintro rfl moves
      exact absurd rfl moves
    -- the length is refused
    cases positive .drawLine .distance distance with
    | error fault => simp [bind, Except.bind, still]
    | ok length' =>
      -- there is no robot
      cases m.pointer with
      | none => simp [bind, Except.bind, still]
      | some q' =>
        simp only [bind, Except.bind, still, if_false, pure, Except.pure, Except.ok.injEq,
          Prod.mk.injEq, Option.some.injEq]
        constructor
        · rintro ⟨rfl, rfl, rfl⟩
          exact ⟨rfl, still, rfl, rfl⟩
        · rintro ⟨rfl, -, rfl, rfl⟩
          exact ⟨rfl, rfl, rfl⟩

/-! ## Drawing

The loop and the machine it has come to. A stamp leaves the side of the canvas alone, so it does not
matter whether the cells ahead are looked up on the canvas before or after it.
-/

/-- The machine after the first cells of a line. -/
def drawn (m : Machine) (q step : Point) (n : Nat) : Machine :=
  { m with
    canvas := Paint.stampAll m.canvas (lineCells q step n) m.brush.size m.brush.color
    pointer := if n = 0 then m.pointer else some (lineCell q step (n - 1)) }

/-- Drawing one cell and then some is drawing all of them. -/
theorem drawn_succ (m : Machine) (q step : Point) (n : Nat) :
    m.drawn q step (n + 1) =
      { m with
        canvas := Paint.stamp m.canvas q m.brush.size m.brush.color
        pointer := some q : Machine }.drawn ⟨q.x + step.x, q.y + step.y⟩ step n := by
  simp only [drawn, lineCells_succ, Paint.stampAll_cons, Nat.add_sub_cancel, Nat.add_one_ne_zero,
    if_false, Machine.mk.injEq, and_true, true_and]
  cases n with
  | zero => rw [if_pos rfl, lineCell_zero]
  | succ n => rw [if_neg (Nat.add_one_ne_zero n), lineCell_succ, Nat.add_sub_cancel]

/-- As long as its cells are on the canvas, a line is drawn over them. -/
theorem drawCells_add {k : Nat} (on : ∀ j < k, m.canvas.Contains (lineCell q step j)) (n : Nat) :
    m.drawCells q step (k + n) = (m.drawn q step k).drawCells (lineCell q step k) step n := by
  induction k generalizing m q with
  | zero =>
    rw [Nat.zero_add, lineCell_zero]
    rfl
  | succ k ih =>
    have first := on 0 (Nat.zero_lt_succ k)
    -- the first cell is drawn, and the others are those of the line behind it
    rw [lineCell_zero] at first
    rw [Nat.add_right_comm, drawCells, if_pos first, ih, drawn_succ, lineCell_succ]
    intro j lt
    have next := on (j + 1) (Nat.succ_lt_succ lt)
    rw [lineCell_succ] at next
    exact (Canvas.contains_congr (Paint.side_stamp ..)).mpr next

/-- A line whose cells are on the canvas is drawn over all of them. -/
theorem drawCells_eq_drawn {n : Nat} (on : ∀ j < n, m.canvas.Contains (lineCell q step j)) :
    m.drawCells q step n = ⟨m.drawn q step n, none⟩ := by
  have all := drawCells_add on 0
  rwa [Nat.add_zero] at all

/-- A line faults at its first cell off the canvas, drawn over the cells before it. -/
theorem drawCells_eq_left {k n : Nat} (on : ∀ j < k, m.canvas.Contains (lineCell q step j))
    (off : ¬ m.canvas.Contains (lineCell q step k)) (lt : k < n) :
    m.drawCells q step n = ⟨m.drawn q step k, some (.lineLeftCanvas
      ⟨(lineCell q step k).x - step.x, (lineCell q step k).y - step.y⟩)⟩ := by
  obtain ⟨rest, rfl⟩ := Nat.exists_eq_add_of_lt lt
  have off' : ¬ (m.drawn q step k).canvas.Contains (lineCell q step k) := fun here =>
    off ((Canvas.contains_congr (Paint.side_stampAll ..)).mp here)
  rw [Nat.add_assoc, drawCells_add on, drawCells, if_neg off']

/-- Drawing cells faults at the first cell off the canvas, with the brush stamped on the cells
before it. -/
theorem drawCells_fault {n : Nat} {fault : Fault}
    (failed : (m.drawCells q step n).fault = some fault) :
    ∃ k < n, (∀ j < k, m.canvas.Contains (lineCell q step j)) ∧
      ¬ m.canvas.Contains (lineCell q step k) ∧
      (m.drawCells q step n).machine.canvas =
        Paint.stampAll m.canvas (lineCells q step k) m.brush.size m.brush.color ∧
      fault = .lineLeftCanvas
        ⟨(lineCell q step k).x - step.x, (lineCell q step k).y - step.y⟩ := by
  by_cases all : ∀ j < n, m.canvas.Contains (lineCell q step j)
  · rw [drawCells_eq_drawn all] at failed
    cases failed
  -- the first cell off the canvas is one of the cells that the loop comes to
  · simp only [not_forall] at all
    obtain ⟨j, lt, off⟩ := all
    obtain ⟨k, on, leaves⟩ := exists_first_off ⟨j, off⟩
    have le : k ≤ j := Nat.not_lt.mp fun before => off (on j before)
    rw [drawCells_eq_left on leaves (by omega)] at failed ⊢
    cases failed
    exact ⟨k, by omega, on, leaves, rfl, rfl⟩

/-! ## The length of a line

Along an axis on which the line moves, as many steps as the canvas has cells lead from a cell on it
to one off it. So a greater length than the side and one makes no difference: the loop does not get
so far.
-/

/-- Rounds behind a cell off the canvas are not reached. -/
theorem drawCells_eq_of_off {k : Nat} (off : ¬ m.canvas.Contains (lineCell q step k)) {n : Nat}
    (lt : k < n) : m.drawCells q step n = m.drawCells q step (k + 1) := by
  obtain ⟨first, on, leaves⟩ := exists_first_off ⟨k, off⟩
  have le : first ≤ k := Nat.not_lt.mp fun before => off (on k before)
  rw [drawCells_eq_left on leaves (by omega), drawCells_eq_left on leaves (by omega)]

theorem off_axis {a b side : Int} (low : 0 ≤ a) (high : a < side) (moves : b ≠ 0) :
    ¬ (0 ≤ a + side * b ∧ a + side * b < side) := by
  rintro ⟨low', high'⟩
  rcases Int.lt_or_gt_of_ne moves with down | up
  -- as many steps as the side lead beyond one end or the other
  · have : side * b ≤ side * (-1) := Int.mul_le_mul_of_nonneg_left (by omega) (by omega)
    omega
  · have : side * 1 ≤ side * b := Int.mul_le_mul_of_nonneg_left (by omega) (by omega)
    omega

/-- A step that moves leaves the canvas within as many steps as its side. -/
theorem exists_off_canvas (c : Canvas) (q : Point) (moves : step ≠ ⟨0, 0⟩) :
    ∃ k : Nat, k ≤ c.side ∧ ¬ c.Contains (lineCell q step k) := by
  by_cases here : c.Contains q
  · refine ⟨c.side, Nat.le_refl _, ?_⟩
    obtain ⟨left, right, top, bottom⟩ := here
    rintro ⟨left', right', top', bottom'⟩
    obtain ⟨x, y⟩ := step
    -- an axis along which the step moves
    by_cases still : x = 0
    · have falls : y ≠ 0 := by
        rintro rfl
        exact moves (by rw [still])
      exact off_axis top bottom falls ⟨top', bottom'⟩
    · exact off_axis left right still ⟨left', right'⟩
  · -- the line starts off the canvas
    refine ⟨0, Nat.zero_le _, ?_⟩
    rw [lineCell_zero]
    exact here

theorem drawCells_eq_min (m : Machine) (q : Point) (moves : step ≠ ⟨0, 0⟩) (n : Nat) :
    m.drawCells q step n = m.drawCells q step (min n (m.canvas.side + 1)) := by
  obtain ⟨k, le, off⟩ := exists_off_canvas m.canvas q moves
  rcases Nat.lt_or_ge k n with long | short
  -- behind that cell no round is reached, however many there are
  · have kept : k < min n (m.canvas.side + 1) := by omega
    rw [drawCells_eq_of_off off long, drawCells_eq_of_off off kept]
  · rw [Nat.min_eq_left (by omega)]

theorem drawLine_eq_min {dx dy distance : Int64} {cell : Point} {length : Int}
    (course : m.lineCourse dx dy distance = .ok (cell, step, length)) :
    m.drawLine dx dy distance = m.drawCells cell step (min length.toNat (m.canvas.side + 1)) := by
  obtain ⟨-, moves, -, -⟩ := lineCourse_eq_ok_iff.mp course
  rw [drawLine, course]
  exact drawCells_eq_min m cell moves _

end BrushScript.Machine
