import BrushScript.Proofs.Machine.Line

/-!
# A line paints its cells and no others

A canvas has no gaps, so a line that starts on it stays on it for a number of cells and never comes
back after them: `exists_ray`. That number decides how a line ends. If it is not less than the
length, all cells are drawn and the robot stands on the last one; otherwise the line faults at the
last cell on the canvas, with that cell and those before it drawn (`drawCells_eq_ray`).

Drawing looks at no cell that is more than one step off the canvas, so the same loop in checked
64-bit arithmetic never gives up: `drawCells?_eq_some`. `drawLine_paints_line` puts this together
for the command.

The number that `exists_ray` gives is one less than the number of cells on the canvas, so that it
names the last of them, which is also the one that the fault reports and that the robot stands on.
-/

namespace BrushScript

open Syntax

namespace Machine

variable {m : Machine} {c : Canvas} {q step : Point}

/-! ## How far a line stays on a canvas

Along each axis the cells on the canvas are an interval, and the line goes through it in one
direction. The first cell off the canvas, which there is if the line moves, is then followed by no
other on it.
-/

/-- Along one axis, what lies between two places on the canvas lies on it. -/
theorem between_on_axis {a b side : Int} {j k : Nat} (le : j ≤ k) (first : 0 ≤ a ∧ a < side)
    (last : 0 ≤ a + k * b ∧ a + k * b < side) : 0 ≤ a + j * b ∧ a + j * b < side := by
  have near : (j : Int) ≤ k := Int.ofNat_le.mpr le
  -- a step in each direction
  rcases Int.le_total 0 b with up | down
  · have := Int.mul_nonneg (Int.natCast_nonneg j) up
    have := Int.mul_le_mul_of_nonneg_right near up
    omega
  · have := Int.mul_nonpos_of_nonneg_of_nonpos (Int.natCast_nonneg j) down
    have := Int.mul_le_mul_of_nonpos_right near down
    omega

theorem contains_lineCell_of_le {j k : Nat} (home : c.Contains q)
    (on : c.Contains (lineCell q step k)) (le : j ≤ k) : c.Contains (lineCell q step j) := by
  obtain ⟨left, right, top, bottom⟩ := home
  obtain ⟨left', right', top', bottom'⟩ := on
  obtain ⟨left'', right''⟩ := between_on_axis le ⟨left, right⟩ ⟨left', right'⟩
  exact ⟨left'', right'', between_on_axis le ⟨top, bottom⟩ ⟨top', bottom'⟩⟩

/-- A line from a cell of the canvas has a number of cells on it, and all others off it. -/
theorem exists_ray (home : c.Contains q) (moves : step ≠ ⟨0, 0⟩) :
    ∃ k, ∀ j, c.Contains (lineCell q step j) ↔ j ≤ k := by
  obtain ⟨away, -, off⟩ := exists_off_canvas c q moves
  -- the first cell that is off; the robot's own is not
  obtain ⟨k, on, leaves⟩ := exists_first_off ⟨away, off⟩
  cases k with
  | zero =>
    rw [lineCell_zero] at leaves
    exact absurd home leaves
  | succ k =>
    refine ⟨k, fun j => ⟨fun here => ?_, fun le => on j (Nat.lt_succ_of_le le)⟩⟩
    -- a cell on the canvas behind one that is off it would have that one between
    by_contra past
    exact leaves (contains_lineCell_of_le home here (Nat.not_le.mp past))

/-! ## How a line ends

With the number of cells on the canvas at hand, the loop has two ends: behind all its cells, or at
the one after the last that is on the canvas. What is painted in the second case is said without
that number, over the cells of the whole line that are on the canvas.
-/

/-- A line of which the cells up to the one with the number `k` are on the canvas is drawn over its
cells, or up to that one, which the fault names. -/
theorem drawCells_eq_ray {k n : Nat} (ray : ∀ j, m.canvas.Contains (lineCell q step j) ↔ j ≤ k) :
    m.drawCells q step n = if n ≤ k + 1 then ⟨m.drawn q step n, none⟩
      else ⟨m.drawn q step (k + 1), some (.lineLeftCanvas (lineCell q step k))⟩ := by
  split
  · next short => exact drawCells_eq_drawn fun j lt => (ray j).mpr (by omega)
  · next long =>
    have off : ¬ m.canvas.Contains (lineCell q step (k + 1)) := fun on =>
      Nat.not_succ_le_self k ((ray (k + 1)).mp on)
    rw [drawCells_eq_left (fun j lt => (ray j).mpr (Nat.le_of_lt_succ lt)) off (by omega),
      lineCell_succ_sub]

theorem pixel?_drawn (m : Machine) (p step : Point) (n : Nat) (q : Point) :
    (m.drawn p step n).canvas.pixel? q =
      if m.canvas.Contains q ∧ m.brush.color ≠ .clear ∧
          ∃ k < n, Paint.Covers m.brush.size (lineCell p step k) q then some m.brush.color
      else m.canvas.pixel? q := by
  by_cases clears : m.brush.color = .clear
  · -- the clear brush paints nothing, whatever the cells are
    simp [drawn, clears, Paint.stampAll_clear]
  · have cells : (∃ r ∈ lineCells p step n, Paint.Covers m.brush.size r q) ↔
        ∃ k < n, Paint.Covers m.brush.size (lineCell p step k) q := by
      simp [lineCells]
    simp only [drawn, Paint.pixel?_stampAll clears, cells, clears, ne_eq, not_false_eq_true,
      true_and]

/-- A line that is longer than what of it is on the canvas paints there what the brush covers from
its cells on the canvas. -/
theorem pixel?_drawn_ray {k n : Nat}
    (ray : ∀ j, m.canvas.Contains (lineCell q step j) ↔ j ≤ k) (long : k < n) (r : Point) :
    (m.drawn q step (k + 1)).canvas.pixel? r =
      if m.canvas.Contains r ∧ m.brush.color ≠ .clear ∧
          ∃ j < n, m.canvas.Contains (lineCell q step j) ∧
            Paint.Covers m.brush.size (lineCell q step j) r then some m.brush.color
      else m.canvas.pixel? r := by
  have same : (∃ j < k + 1, Paint.Covers m.brush.size (lineCell q step j) r) ↔
      ∃ j < n, m.canvas.Contains (lineCell q step j) ∧
        Paint.Covers m.brush.size (lineCell q step j) r := by
    constructor
    · rintro ⟨j, lt, covers⟩
      exact ⟨j, by omega, (ray j).mpr (Nat.le_of_lt_succ lt), covers⟩
    · rintro ⟨j, -, on, covers⟩
      exact ⟨j, Nat.lt_succ_of_le ((ray j).mp on), covers⟩
  simp only [pixel?_drawn, same]

/-! ## Coordinates of 64 bits

Places are integers without bounds here, whereas a machine computes them in 64 bits. The loop in
checked arithmetic differs from the loop in no other way, and the invariant of its rounds is that
the cell it is at is close to the canvas, whose side has 32 bits at most.
-/

/-- A cell whose coordinates are 64-bit integers; nothing for any other. -/
def checked? (p : Point) : Option Point :=
  if Integer.Fits p.x ∧ Integer.Fits p.y then some p else none

/-- Drawing cells in checked 64-bit arithmetic, which gives up where a coordinate does not fit. -/
def drawCells? (m : Machine) (p step : Point) : Nat → Option Effect
  | 0 => some ⟨m, none⟩
  | n + 1 =>
    if m.canvas.Contains p then do
      let next ← checked? ⟨p.x + step.x, p.y + step.y⟩
      drawCells?
        { m with
          canvas := Paint.stamp m.canvas p m.brush.size m.brush.color
          pointer := some p }
        next step n
    else do
      let last ← checked? ⟨p.x - step.x, p.y - step.y⟩
      return ⟨m, some (.lineLeftCanvas last)⟩

/-- A step that goes at most one cell along each axis. -/
def Short (step : Point) : Prop := (-1 ≤ step.x ∧ step.x ≤ 1) ∧ -1 ≤ step.y ∧ step.y ≤ 1

/-- The cell is on the canvas or at most one step off it. -/
def Close (c : Canvas) (p : Point) : Prop :=
  (-1 ≤ p.x ∧ p.x ≤ c.side) ∧ -1 ≤ p.y ∧ p.y ≤ c.side

theorem close_of_contains {p : Point} (on : c.Contains p) : Close c p := by
  obtain ⟨left, right, top, bottom⟩ := on
  exact ⟨by omega, by omega⟩

theorem close_next {p : Point} (short : Short step) (on : c.Contains p) :
    Close c ⟨p.x + step.x, p.y + step.y⟩ := by
  simp only [Canvas.Contains, Short, Close] at *
  omega

/-- The cells beside a cell that is close to the canvas have coordinates that fit. -/
theorem checked?_eq_some {p : Point} {dx dy : Int} (close : Close c p)
    (short : Short ⟨dx, dy⟩) : checked? ⟨p.x + dx, p.y + dy⟩ = some ⟨p.x + dx, p.y + dy⟩ := by
  have := c.side_lt
  refine if_pos ?_
  simp only [Close, Short, Integer.Fits, Integer.least, Integer.greatest] at *
  omega

/-- In checked arithmetic, no coordinate of a line that starts close to the canvas is refused. -/
theorem drawCells?_eq_some (short : Short step) {p : Point} (close : Close m.canvas p) (n : Nat) :
    m.drawCells? p step n = some (m.drawCells p step n) := by
  -- the fault is reported one step back
  have back : Short ⟨-step.x, -step.y⟩ := by
    simp only [Short] at *
    omega
  induction n generalizing m p with
  | zero => rfl
  | succ n ih =>
    rw [drawCells?, drawCells]
    split
    · next on =>
      have next := close_next short on
      rw [checked?_eq_some close short]
      refine ih ?_
      -- the stamp leaves the side, and with it what is close to the canvas
      simpa only [Close, Paint.side_stamp] using next
    · have last := checked?_eq_some close back
      simp only [← Int.sub_eq_add_neg] at last
      rw [last]
      rfl

/-! ## The command

The command comes to the loop when its arguments pass the checks. The assumptions on the direction
are those of the checks, in the numbers of the script.
-/

section

variable {p : Point} {dx dy distance : Int64} (horizontal : dx = -1 ∨ dx = 0 ∨ dx = 1)
  (vertical : dy = -1 ∨ dy = 0 ∨ dy = 1)

include horizontal vertical

theorem short_direction : Short ⟨dx.toInt, dy.toInt⟩ := by
  rcases horizontal with rfl | rfl | rfl <;> rcases vertical with rfl | rfl | rfl <;>
    exact ⟨by decide, by decide⟩

theorem direction_moves (moves : ¬ (dx = 0 ∧ dy = 0)) :
    (⟨dx.toInt, dy.toInt⟩ : Point) ≠ ⟨0, 0⟩ := by
  rcases horizontal with rfl | rfl | rfl <;> rcases vertical with rfl | rfl | rfl <;>
    first | decide | exact absurd ⟨rfl, rfl⟩ moves

theorem drawLine_eq_drawCells (stands : m.pointer = some p) (moves : ¬ (dx = 0 ∧ dy = 0))
    (long : 1 ≤ distance.toInt) :
    m.drawLine dx dy distance =
      m.drawCells p ⟨dx.toInt, dy.toInt⟩ distance.toInt.toNat := by
  have course : m.lineCourse dx dy distance = .ok (p, ⟨dx.toInt, dy.toInt⟩, distance.toInt) := by
    rw [lineCourse_eq_ok_iff, direction, if_pos ⟨horizontal, vertical⟩, positive, if_pos (by omega)]
    exact ⟨rfl, direction_moves horizontal vertical moves, rfl, stands⟩
  rw [drawLine, course]

theorem drawLine_eq_ray {k : Nat} (stands : m.pointer = some p) (moves : ¬ (dx = 0 ∧ dy = 0))
    (long : 1 ≤ distance.toInt)
    (ray : ∀ j, m.canvas.Contains (lineCell p ⟨dx.toInt, dy.toInt⟩ j) ↔ j ≤ k) :
    m.drawLine dx dy distance =
      if distance.toInt.toNat ≤ k + 1 then
        ⟨m.drawn p ⟨dx.toInt, dy.toInt⟩ distance.toInt.toNat, none⟩
      else ⟨m.drawn p ⟨dx.toInt, dy.toInt⟩ (k + 1),
        some (.lineLeftCanvas (lineCell p ⟨dx.toInt, dy.toInt⟩ k))⟩ := by
  rw [drawLine_eq_drawCells horizontal vertical stands moves long, drawCells_eq_ray ray]

end

/-- Drawing a line from a robot on the canvas, in a direction and over a length that a line can
have. If its last cell is on the canvas, the robot goes there, and the pixels are painted that the
brush covers from the cells of the line. If not, the line faults at its last cell on the canvas, and
the pixels are painted that the brush covers from the cells that are on it. No coordinate leaves the
64-bit range. The colour and size of the brush do not matter for where the robot goes and for the
fault, and the clear brush paints nothing. -/
theorem drawLine_paints_line {m : Machine} {p : Point} {dx dy distance : Int64}
    (stands : m.pointer = some p) (home : m.canvas.Contains p)
    (horizontal : dx = -1 ∨ dx = 0 ∨ dx = 1) (vertical : dy = -1 ∨ dy = 0 ∨ dy = 1)
    (moves : ¬ (dx = 0 ∧ dy = 0)) (long : 1 ≤ distance.toInt) :
    let cell := lineCell p ⟨dx.toInt, dy.toInt⟩
    let n := distance.toInt.toNat
    let effect := m.drawLine dx dy distance
    (m.canvas.Contains (cell (n - 1)) →
      effect.fault = none ∧ effect.machine.pointer = some (cell (n - 1)) ∧
        ∀ q, effect.machine.canvas.pixel? q =
          if m.canvas.Contains q ∧ m.brush.color ≠ .clear ∧
              ∃ k < n, Paint.Covers m.brush.size (cell k) q then some m.brush.color
          else m.canvas.pixel? q) ∧
    (¬ m.canvas.Contains (cell (n - 1)) →
      ∃ last, (∀ k, m.canvas.Contains (cell k) ↔ k ≤ last) ∧
        effect.fault = some (.lineLeftCanvas (cell last)) ∧
        effect.machine.pointer = some (cell last) ∧
        ∀ q, effect.machine.canvas.pixel? q =
          if m.canvas.Contains q ∧ m.brush.color ≠ .clear ∧
              ∃ k < n, m.canvas.Contains (cell k) ∧ Paint.Covers m.brush.size (cell k) q then
            some m.brush.color
          else m.canvas.pixel? q) ∧
    m.drawCells? p ⟨dx.toInt, dy.toInt⟩ n = some effect ∧
    (m.brush.color = .clear → effect.machine.canvas = m.canvas) ∧
    ∀ brush, ({ m with brush }.drawLine dx dy distance).fault = effect.fault ∧
      ({ m with brush }.drawLine dx dy distance).machine.pointer = effect.machine.pointer := by
  intro cell n effect
  obtain ⟨last, ray⟩ := exists_ray home (direction_moves horizontal vertical moves)
  have ends : effect = if n ≤ last + 1 then ⟨m.drawn p ⟨dx.toInt, dy.toInt⟩ n, none⟩
      else ⟨m.drawn p ⟨dx.toInt, dy.toInt⟩ (last + 1), some (.lineLeftCanvas (cell last))⟩ :=
    drawLine_eq_ray horizontal vertical stands moves long ray
  have whole : m.canvas.Contains (cell (n - 1)) ↔ n ≤ last + 1 :=
    (ray (n - 1)).trans (by omega)
  refine ⟨fun on => ?_, fun off => ⟨last, ray, ?_⟩, ?_, fun clears => ?_, fun brush => ?_⟩
  · -- a line that stays on the canvas
    rw [ends, if_pos (whole.mp on)]
    exact ⟨rfl, if_neg (by omega), pixel?_drawn m p _ n⟩
  · -- a line that leaves it
    have left : ¬ n ≤ last + 1 := fun le => off (whole.mpr le)
    rw [ends, if_neg left]
    exact ⟨rfl, rfl, pixel?_drawn_ray ray (by omega)⟩
  · -- the same in checked arithmetic
    have fits := drawCells?_eq_some (m := m) (short_direction horizontal vertical)
      (close_of_contains home) n
    rwa [← drawLine_eq_drawCells horizontal vertical stands moves long] at fits
  · -- the clear brush
    rw [ends]
    split <;> simp only [drawn, clears, Paint.stampAll_clear]
  · -- another brush, with the same cells ahead
    have stands' : ({ m with brush } : Machine).pointer = some p := stands
    rw [ends, drawLine_eq_ray horizontal vertical stands' moves long ray]
    split <;> exact ⟨rfl, rfl⟩

/-- From the cell (1, 1) of a canvas of side 4, a diagonal line of three cells ends in the corner,
and the longest one faults there. -/
theorem drawLine_paints_line_corner :
    let m : Machine := ⟨Canvas.filled 4 .white, some ⟨1, 1⟩, ⟨.black, 3⟩, .empty⟩
    m.canvas.Contains ⟨1, 1⟩ ∧
      (m.drawLine 1 1 3).fault = none ∧ (m.drawLine 1 1 3).machine.pointer = some ⟨3, 3⟩ ∧
      (m.drawLine 1 1 9223372036854775807).fault = some (.lineLeftCanvas ⟨3, 3⟩) ∧
      (m.drawLine 1 1 9223372036854775807).machine.pointer = some ⟨3, 3⟩ ∧
      (m.drawLine 1 1 9223372036854775807).machine.canvas.pixel? ⟨0, 2⟩ = some .black ∧
      (m.drawLine 1 1 9223372036854775807).machine.canvas.pixel? ⟨0, 3⟩ = some .white := by
  intro m
  have home : m.canvas.Contains ⟨1, 1⟩ := by decide
  have stands : m.pointer = some ⟨1, 1⟩ := rfl
  obtain ⟨ended, stopped, -⟩ := (@drawLine_paints_line m ⟨1, 1⟩ 1 1 3 stands home (by decide)
    (by decide) (by decide) (by decide)).1 (by decide)
  obtain ⟨last, ray, fault, pointer, pixel⟩ := (@drawLine_paints_line m ⟨1, 1⟩ 1 1
    9223372036854775807 stands home (by decide) (by decide) (by decide) (by decide)).2.1 (by decide)
  have at_least : 2 ≤ last := (ray 2).mp (by decide)
  have at_most : ¬ 3 ≤ last := fun past => absurd ((ray 3).mpr past) (by decide)
  have corner : last = 2 := by omega
  have here : lineCell ⟨1, 1⟩ ⟨(1 : Int64).toInt, (1 : Int64).toInt⟩ 2 = ⟨3, 3⟩ := by decide
  have cells : (3 : Int64).toInt.toNat - 1 = 2 := by decide
  rw [cells, here] at stopped
  rw [corner, here] at fault pointer
  refine ⟨home, ended, stopped, fault, pointer, ?_, ?_⟩
  · rw [pixel, if_pos ⟨by decide, by decide, 0, by decide, by decide, by decide⟩]
  · rw [pixel, if_neg ?_]
    · exact Canvas.pixel?_filled (by decide)
    -- the brush reaches one cell far, and no cell of the line is so near to that corner
    · rintro ⟨-, -, k, -, -, covers⟩
      have step : (1 : Int64).toInt = 1 := by decide
      have reached : Paint.reach m.brush.size = 1 := by decide
      simp only [Paint.Covers, lineCell, step, reached] at covers
      omega

end Machine
end BrushScript
