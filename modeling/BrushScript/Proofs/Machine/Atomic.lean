import BrushScript.Proofs.Machine.Robot

/-!
# What a fault leaves on the canvas

A statement that stops the run leaves the canvas as it found it: arguments are evaluated and checked
before anything is painted. The one exception is a line that goes off the canvas, which has been
drawn over its cells before that one (`Machine.LineLeft`). `fault_atomic` says so for whole runs.
That such a line has been drawn over one cell at least is because the robot stands on the canvas.

The faults tell the two apart. Only the loop of a line raises the fault of the family `line`; every
other part of the machine has been given a class of faults that lies apart from it, so a fault of
that family leads back to a call that draws a line (`eq_drawLine_of_call`) and from there to the
cells it has drawn (`lineLeft_of_drawLine`).
-/

namespace BrushScript

open Syntax

/-! ## Lines that leave the canvas

The whole of what is known about such a line: where it started, which of its cells are on the
canvas, what the canvas looks like and what the fault says. The cell that is reported is the last
one on the canvas, not the one that is off it.
-/

/-- The fault of a line that leaves the canvas. -/
abbrev Fault.isLineLeftCanvas : Fault → Bool := among [.line]

namespace Machine

variable {m m' : Machine} {resolver : Option ColorResolver} {b : Builtin} {args : List Expr}
  {fault : Fault}

/-- A line from the robot has been drawn over its first `n` cells, which lie on the canvas, and
stopped at the next one, which does not. -/
structure LineLeft (m : Machine) (step : Point) (length : Int) (q : Point) (n : Nat)
    (left : Canvas) (fault : Fault) : Prop where
  starts : m.pointer = some q
  positive : 0 < n
  within : n < length
  on_canvas : ∀ k < n, m.canvas.Contains (lineCell q step k)
  off_canvas : ¬ m.canvas.Contains (lineCell q step n)
  stamped : left = Paint.stampAll m.canvas (lineCells q step n) m.brush.size m.brush.color
  reported : fault = .lineLeftCanvas (lineCell q step (n - 1))

theorem raises_position_notLineLeft (m : Machine) :
    Raises (·.isLineLeftCanvas = false) m.position :=
  m.raises_position.allow (Fault.among_apart (by decide))

theorem raises_evalArguments_notLineLeft (resolver : Option ColorResolver) (m : Machine)
    (b : Builtin) (args : List Expr) :
    Raises (·.isLineLeftCanvas = false) (m.evalArguments resolver b args) :=
  (m.raises_evalArguments_ofExpression resolver b args).allow (Fault.among_apart (by decide))

/-- A line that leaves the canvas does so behind the robot's cell. -/
theorem lineLeft_of_drawLine {side : Nat} (sound : m.Sound side) {dx dy distance : Int64}
    (failed : (m.drawLine dx dy distance).fault = some fault)
    (off : fault.isLineLeftCanvas = true) :
    ∃ q n, m.LineLeft ⟨dx.toInt, dy.toInt⟩ distance.toInt q n
      (m.drawLine dx dy distance).machine.canvas fault := by
  unfold drawLine at failed ⊢
  split at failed
  · next q step length course =>
    obtain ⟨ok, -, extent, starts⟩ := lineCourse_eq_ok_iff.mp course
    cases direction_eq_of_ok ok
    cases positive_eq_of_ok extent
    obtain ⟨n, lt, on, leaves, stamped, same⟩ := drawCells_fault failed
    cases n with
    | zero =>
      -- the first cell is the robot's own
      rw [lineCell_zero] at leaves
      exact absurd (sound.on_canvas q starts) leaves
    | succ n =>
      rw [lineCell_succ_sub] at same
      exact ⟨q, n + 1, starts, Nat.zero_lt_succ n, by omega, on, leaves, stamped, same⟩
  · -- a line without a course is refused by one of the checks
    next refused course =>
    have checked := raises_lineCourse (Fault.among_apart (by decide))
      m.raises_position_notLineLeft dx dy distance
    rw [course] at checked
    cases failed
    have stays : fault.isLineLeftCanvas = false := checked
    cases stays.symm.trans off

/-- The only call that can leave the canvas is that of a line. -/
theorem eq_drawLine_of_call (called : m.call resolver b args = ⟨m', some fault⟩)
    (off : fault.isLineLeftCanvas = true) : b = .command .drawLine := by
  by_cases line : b = .command .drawLine
  · exact line
  · have evaluated := m.raises_evalArguments_notLineLeft resolver b args
    have kept := call_within evaluated (Fault.among_apart (by decide))
      m.raises_position_notLineLeft fun same => absurd same line
    rw [called] at kept
    cases (kept.allowed_of_fault rfl).symm.trans off

theorem lineLeft_of_call {side : Nat} (sound : m.Sound side)
    (called : m.call resolver (.command .drawLine) args = ⟨m', some fault⟩)
    (off : fault.isLineLeftCanvas = true) :
    ∃ dx dy distance,
      m.evalArguments resolver (.command .drawLine) args = .ok (dx, dy, distance, ()) ∧
        ∃ q n, m.LineLeft ⟨dx.toInt, dy.toInt⟩ distance.toInt q n m'.canvas fault := by
  unfold call at called
  split at called
  · -- the arguments fault, before anything is drawn
    next failed =>
    have raised := m.raises_evalArguments_notLineLeft resolver (.command .drawLine) args
    rw [failed] at raised
    cases called
    have stays : fault.isLineLeftCanvas = false := raised
    cases stays.symm.trans off
  · next values evaluated =>
    obtain ⟨dx, dy, distance, ⟨⟩⟩ := values
    refine ⟨dx, dy, distance, evaluated, ?_⟩
    change m.drawLine dx dy distance = _ at called
    have failed : (m.drawLine dx dy distance).fault = some fault := by rw [called]
    have left := lineLeft_of_drawLine sound failed off
    rw [called] at left
    exact left

end Machine

/-! ## Statements

Calls are the only statements that touch the canvas. So a halt at any other statement is settled by
what it may raise, and a halt at a call by its effect.
-/

/-- Faults of statements that are no calls. -/
abbrev Fault.ofStatement : Fault → Bool :=
  among [.value, .division, .overflow, .unbound, .robot, .color, .target, .limit]

namespace State

variable {p : Program} {options : RunOptions} {s : State p} {e : RuntimeError}
  {canvas left : Canvas}

/-- What stops a run is a call that faults, or something that leaves the canvas alone. -/
theorem Halts.call_or (h : Halts options s (.fault e) left) :
    (∃ (here : s.pc < p.statements.size) (b : Builtin) (args : List Expr) (m : Machine),
      p.statements[s.pc].action = .call b args ∧
        s.machine.call options.resolver b args = ⟨m, some e.fault⟩ ∧ left = m.canvas) ∨
      e.fault.ofStatement = true ∧ left = s.machine.canvas := by
  cases h with
  | @assign _ value _ _ _ evaluated =>
    have raised := s.machine.raises_eval options.resolver value
    rw [evaluated] at raised
    exact .inr ⟨Fault.among_mono (by decide) raised, rfl⟩
  | limit => exact .inr ⟨rfl, rfl⟩
  | @jump label condition _ _ _ _ _ _ fails =>
    have raised := raises_jump p options s.machine s.pc label condition
    rw [fails] at raised
    rcases raised with expression | rfl
    · exact .inr ⟨Fault.among_mono (by decide) expression, rfl⟩
    · exact .inr ⟨rfl, rfl⟩
  | @call b args m _ here action called => exact .inl ⟨here, b, args, m, action, called, rfl⟩

/-- A statement that stops the run leaves the canvas alone, unless a line has left it. -/
theorem Halts.canvas_eq_or (h : Halts options s (.fault e) left) :
    left = s.machine.canvas ∨ ∃ q, e.fault = .lineLeftCanvas q := by
  obtain ⟨_, b, args, m, _, called, same⟩ | ⟨_, same⟩ := h.call_or
  · have kept := s.machine.call_meets options.resolver b args
    rw [called] at kept
    -- the effect of the call is atomic, with the exception of lines
    rcases kept.atomic rfl with alone | off
    · exact .inl (same.trans (congrArg Machine.canvas alone))
    · exact .inr off
  · exact .inl same

/-- A statement that leaves the canvas draws a line. -/
theorem Halts.lineLeft {side : Nat} (h : Halts options s (.fault e) left)
    (sound : s.machine.Sound side) (off : e.fault.isLineLeftCanvas = true) :
    ∃ (here : s.pc < p.statements.size) (args : List Expr) (dx dy distance : Int64),
      p.statements[s.pc].action = .call (.command .drawLine) args ∧
        s.machine.evalArguments options.resolver (.command .drawLine) args =
          .ok (dx, dy, distance, ()) ∧
        ∃ q n, s.machine.LineLeft ⟨dx.toInt, dy.toInt⟩ distance.toInt q n left e.fault := by
  obtain ⟨here, b, args, m, action, called, rfl⟩ | ⟨other, _⟩ := h.call_or
  · cases Machine.eq_drawLine_of_call called off
    obtain ⟨dx, dy, distance, evaluated, line⟩ := Machine.lineLeft_of_call sound called off
    exact ⟨here, args, dx, dy, distance, action, evaluated, line⟩
  · cases (Fault.among_apart (by decide) other).symm.trans off

/-- Labels that stand twice are found before the first statement. -/
theorem Halts.ne_duplicateLabel (h : Halts options s (.fault e) left) (label : String) :
    e.fault ≠ .duplicateLabel label := by
  intro twice
  obtain ⟨_, b, args, m, _, called, _⟩ | ⟨other, _⟩ := h.call_or
  · have kept := s.machine.call_meets options.resolver b args
    rw [called, twice] at kept
    rcases kept.allowed_of_fault rfl with expression | command
    · cases expression
    · cases command
  · rw [twice] at other
    cases other

/-! ## Runs

A run that a fault stops was either refused before its first statement or halts in a state that it
reached, where the invariant of the robot holds.
-/

/-- If a fault stops a run, either labels stand twice and the canvas is the one passed in, or a
statement raised it. The canvas is then the one that the statement found, or the statement drew a
line that left the canvas, and the brush has been stamped on the cells of the line up to the one
that the fault reports, all of which are on the canvas while the next one is not. -/
theorem fault_atomic (p : Program) (options : RunOptions) (canvas : Canvas) (e : RuntimeError)
    (stopped : (p.run options canvas).result = .error (.fault e)) :
    (∃ label, e.fault = .duplicateLabel label) ∧ (p.run options canvas).canvas = canvas ∨
      (∀ label, e.fault ≠ .duplicateLabel label) ∧
        ∃ s, Reaches options (start p canvas) s ∧
          Halts options s (.fault e) (p.run options canvas).canvas ∧
          (e.fault.isLineLeftCanvas = false ∧ (p.run options canvas).canvas = s.machine.canvas ∨
            e.fault.isLineLeftCanvas = true ∧
              ∃ (here : s.pc < p.statements.size) (args : List Expr) (dx dy distance : Int64),
                p.statements[s.pc].action = .call (.command .drawLine) args ∧
                s.machine.evalArguments options.resolver (.command .drawLine) args =
                  .ok (dx, dy, distance, ()) ∧
                ∃ q n, s.machine.LineLeft ⟨dx.toInt, dy.toInt⟩ distance.toInt q n
                  (p.run options canvas).canvas e.fault) := by
  obtain ⟨e', same, twice, left⟩ | ⟨s, reaches, halts⟩ := stop_cases stopped
  · cases same
    exact .inl ⟨fault_of_duplicateLabel? twice, left⟩
  · refine .inr ⟨halts.ne_duplicateLabel, s, reaches, halts, ?_⟩
    cases off : e.fault.isLineLeftCanvas with
    | true => exact .inr ⟨rfl, halts.lineLeft reaches.sound off⟩
    | false =>
      rcases halts.canvas_eq_or with same | ⟨q, left⟩
      · exact .inl ⟨rfl, same⟩
      · rw [left] at off
        cases off

/-- A line that is longer than its canvas. -/
def overshoot : Program :=
  ⟨#[⟨.call (.command .spawn) [.number 0 default, .number 0 default], default⟩,
    ⟨.call (.command .drawLine) [.number 1 default, .number 0 default, .number 5 default],
      default⟩]⟩

theorem fault_atomic_overshoot :
    (overshoot.run ⟨none, 9⟩ (Canvas.filled 2 .white)).result =
        .error (.fault ⟨.lineLeftCanvas ⟨1, 0⟩, default⟩) ∧
      ∃ s, Reaches ⟨none, 9⟩ (start overshoot (Canvas.filled 2 .white)) s ∧
        ∃ (dx dy distance : Int64) (q : Point) (n : Nat),
          s.machine.LineLeft ⟨dx.toInt, dy.toInt⟩ distance.toInt q n
            (overshoot.run ⟨none, 9⟩ (Canvas.filled 2 .white)).canvas (.lineLeftCanvas ⟨1, 0⟩) := by
  have stopped : (overshoot.run ⟨none, 9⟩ (Canvas.filled 2 .white)).result =
      .error (.fault ⟨.lineLeftCanvas ⟨1, 0⟩, default⟩) := by cbv
  refine ⟨stopped, ?_⟩
  obtain ⟨⟨label, twice⟩, -⟩ | ⟨-, s, reaches, -, line⟩ := fault_atomic _ _ _ _ stopped
  · cases twice
  · obtain ⟨other, -⟩ | ⟨-, -, -, dx, dy, distance, -, -, q, n, left⟩ := line
    · cases other
    · exact ⟨s, reaches, dx, dy, distance, q, n, left⟩

end State
end BrushScript
