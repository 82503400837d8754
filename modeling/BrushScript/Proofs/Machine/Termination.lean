import BrushScript.Proofs.Machine.Effect
import BrushScript.Proofs.Machine.Step
import Mathlib.Algebra.BigOperators.Fin
import Mathlib.Algebra.Order.BigOperators.Group.Finset

/-!
# How long a run can be

Between two jumps a run goes through the statements downwards, and every jump uses up one of the
visits that the limit leaves it. So a run has at most as many stretches as there are visits, and one
more, and each stretch has at most as many statements as the program: `Execution.length_le` is this
bound from any state, with the visits that are left as `budget`.

The counter of a jump is the number of times the run came to it (`Step.toNat_visits`), which says
when a run stops at the limit: `Execution.limit_iff`. `run_terminates` puts both together, with the
bound for a single line from `drawLine_eq_min`.

All of this is read off one lemma about a step, `Step.moves`: a statement is no jump, and then the
program counter goes on by one and no counter changes, or it is a jump, and then its counter is
raised and is within the limit. What a whole run does follows by induction on its execution, where
the invariant is `WithinLimit`, that no counter has passed the limit. It holds at the start, a step
keeps it, and with a limit below the greatest number of 32 bits it also rules out that a counter is
ever full (`Execution.ne_counterFull`).
-/

namespace BrushScript

open Syntax

/-- The fault of a jump that was reached too often. -/
abbrev Fault.isGoToLimit : Fault → Bool := among [.limit]

/-- The statement is a jump. -/
def Syntax.Stmt.isJump (s : Stmt) : Bool :=
  match s.action with
  | .goTo _ _ => true
  | _ => false

theorem Syntax.Stmt.isJump_iff {s : Stmt} :
    s.isJump = true ↔ ∃ label condition, s.action = .goTo label condition := by
  unfold isJump
  split
  · next label condition action => exact ⟨fun _ => ⟨label, condition, action⟩, fun _ => rfl⟩
  · next other =>
    constructor
    · intro h
      cases h
    · rintro ⟨label, condition, action⟩
      exact absurd action (other label condition)

/-- How often a jump may be reached. -/
abbrev RunOptions.limit (options : RunOptions) : Nat := options.maxGoToVisits.toNat

/-- The number of jumps in a program. -/
def Syntax.Program.jumps (p : Program) : Nat := p.statements.toList.countP Stmt.isJump

/-! ## Counters

A counter is a number of 32 bits, and raising it fails where the next number would not fit. What
follows speaks of the numbers: a counter that was raised is one greater, and one that could not be
raised was full.
-/

namespace Visits

variable {n : Nat} {v w : Visits n} {i : Nat} {h : i < n}

theorem toNat_raise? (raised : v.raise? i h = some w) {j : Nat} (lt : j < n) :
    w[j].toNat = v[j].toNat + if i = j then 1 else 0 := by
  unfold raise? at raised
  split at raised
  · next fits =>
    cases raised
    -- the counter that was raised, and all the others
    by_cases same : i = j
    · subst same
      rw [Vector.getElem_set_self, UInt32.toNat_add, if_pos rfl]
      exact Nat.mod_eq_of_lt fits
    · rw [Vector.getElem_set_ne _ _ same, if_neg same, Nat.add_zero]
  · cases raised

theorem le_of_raise?_eq_none (full : v.raise? i h = none) : 0xffffffff ≤ v[i].toNat := by
  unfold raise? at full
  split at full
  · cases full
  · omega

end Visits

namespace State

variable {p : Program} {options : RunOptions} {s t : State p} {why : Stop} {canvas : Canvas}

/-- What a step does to the program counter and the counters: it goes on to the next statement, or
it was a jump, which raised its counter within the limit. -/
theorem Step.moves (h : Step options s t) (here : s.pc < p.statements.size) :
    (p.statements[s.pc].isJump = false ∧ t.visits = s.visits ∧ t.pc = s.pc + 1) ∨
      (p.statements[s.pc].isJump = true ∧ s.visits.raise? s.pc here = some t.visits ∧
        t.visits[s.pc].toNat ≤ options.limit) := by
  have ordinary (other : ∀ label condition, p.statements[s.pc].action ≠ .goTo label condition) :
      p.statements[s.pc].isJump = false := by
    rw [Bool.eq_false_iff, ne_eq, Stmt.isJump_iff]
    rintro ⟨label, condition, action⟩
    exact other label condition action
  -- only the rule of jumps has a jump under the program counter
  cases h with
  | assign _ action =>
    refine .inl ⟨ordinary fun label condition jump => ?_, rfl, rfl⟩
    cases action.symm.trans jump
  | label _ action =>
    refine .inl ⟨ordinary fun label condition jump => ?_, rfl, rfl⟩
    cases action.symm.trans jump
  | call _ action =>
    refine .inl ⟨ordinary fun label condition jump => ?_, rfl, rfl⟩
    cases action.symm.trans jump
  | jump _ action raised allowed =>
    exact .inr ⟨Stmt.isJump_iff.mpr ⟨_, _, action⟩, raised, Nat.not_lt.mp allowed⟩

/-- The counter of a jump is the number of times the run came to it. -/
theorem Step.toNat_visits (h : Step options s t) {i : Nat} (lt : i < p.statements.size)
    (jump : p.statements[i].isJump = true) :
    t.visits[i].toNat = s.visits[i].toNat + if s.pc = i then 1 else 0 := by
  obtain ⟨ordinary, same, -⟩ | ⟨-, raised, -⟩ := h.moves h.pc_lt
  · have ne : s.pc ≠ i := by
      rintro rfl
      rw [ordinary] at jump
      cases jump
    rw [same, if_neg ne, Nat.add_zero]
  · exact Visits.toNat_raise? raised lt

/-- A step moves a visit from the trace ahead to the counter. -/
theorem Step.toNat_visits_add_count (h : Step options s t) {i : Nat}
    (lt : i < p.statements.size) (jump : p.statements[i].isJump = true) (trace : List Nat) :
    t.visits[i].toNat + trace.count i = s.visits[i].toNat + (s.pc :: trace).count i := by
  rw [h.toNat_visits lt jump, List.count_cons]
  simp only [beq_iff_eq]
  omega

/-! ## The limit

The invariant of every run: the counters stay at the limit or below. A jump that would raise its
counter above it stops the run before the counter is stored.
-/

/-- No counter has passed the limit. -/
def WithinLimit (options : RunOptions) (s : State p) : Prop :=
  ∀ i (_ : i < p.statements.size), s.visits[i].toNat ≤ options.limit

theorem withinLimit_start (options : RunOptions) (p : Program) (canvas : Canvas) :
    WithinLimit options (start p canvas) := by
  intro i lt
  simp [start]

theorem Step.withinLimit (h : Step options s t) (within : WithinLimit options s) :
    WithinLimit options t := by
  intro i lt
  obtain ⟨-, same, -⟩ | ⟨-, raised, allowed⟩ := h.moves h.pc_lt
  · rw [same]
    exact within i lt
  · by_cases at_pc : s.pc = i
    · subst at_pc
      exact allowed
    · rw [Visits.toNat_raise? raised lt, if_neg at_pc]
      exact within i lt

/-! ## The length of a run

The measure of what is still to come has two parts, the visits left to the jumps and the statements
ahead. A jump may send the program counter back to the first statement, but it pays for this with a
visit; every other statement has one statement less ahead.
-/

/-- The visits that the limit leaves a statement, if it is a jump. -/
def visitsLeft (options : RunOptions) (s : State p) (i : Fin p.statements.size) : Nat :=
  if p.statements[i].isJump then options.limit - s.visits[i].toNat else 0

/-- The visits that the limit leaves all jumps together. -/
def budget (options : RunOptions) (s : State p) : Nat := ∑ i, s.visitsLeft options i

/-- A jump uses up a visit. -/
theorem budget_lt (here : s.pc < p.statements.size)
    (jump : p.statements[s.pc].isJump = true)
    (raised : s.visits.raise? s.pc here = some t.visits)
    (allowed : t.visits[s.pc].toNat ≤ options.limit) : t.budget options < s.budget options := by
  -- no statement has more visits left than before, and the jump has one less
  refine Finset.sum_lt_sum (fun i _ => ?_) ⟨⟨s.pc, here⟩, Finset.mem_univ _, ?_⟩
  · unfold visitsLeft
    split
    · have grows := Visits.toNat_raise? raised i.isLt
      simp only [Fin.getElem_fin]
      omega
    · exact Nat.le_refl _
  · have grows := Visits.toNat_raise? raised here
    rw [if_pos rfl] at grows
    simp only [visitsLeft, Fin.getElem_fin, jump, if_true]
    omega

/-- At the start the limit leaves every jump all its visits. -/
theorem budget_start (options : RunOptions) (p : Program) (canvas : Canvas) :
    (start p canvas).budget options = p.jumps * options.limit := by
  have all : (start p canvas).budget options =
      ∑ i : Fin p.statements.toList.length,
        (fun stmt : Stmt => if stmt.isJump then options.limit else 0) p.statements.toList[i.1] := by
    refine Finset.sum_congr rfl fun i _ => ?_
    simp [visitsLeft, start]
  rw [all, Fin.sum_univ_fun_getElem p.statements.toList fun stmt => if stmt.isJump then _ else 0]
  rw [Program.jumps]
  -- both sides as sums over the statements, one statement at a time
  induction p.statements.toList with
  | nil => simp
  | cons stmt rest ih =>
    rw [List.map_cons, List.sum_cons, ih, List.countP_cons]
    split
    · rw [Nat.add_mul, Nat.one_mul, Nat.add_comm]
    · rw [Nat.zero_add, Nat.add_zero]

variable {trace : List Nat} {o : Outcome}

/-- A run carries out the statements ahead, and all statements once more for every visit left. -/
theorem Execution.length_le (h : Execution options s trace o) :
    trace.length ≤
      (p.statements.size - s.pc) + p.statements.size * s.budget options := by
  induction h with
  | done => exact Nat.zero_le _
  | halt halts =>
    have := halts.pc_lt
    rw [List.length_singleton]
    omega
  | @next s t trace o step _ ih =>
    have here := step.pc_lt
    rw [List.length_cons]
    obtain ⟨-, same, on⟩ | ⟨jump, raised, allowed⟩ := step.moves here
    · -- no visit is used up, and there is one statement less ahead
      have kept : t.budget options = s.budget options := by
        unfold budget visitsLeft
        rw [same]
      rw [kept, on] at ih
      omega
    · -- the visit that the jump has used up pays for all statements once more
      have less := budget_lt here jump raised allowed
      have := Nat.mul_le_mul_left p.statements.size less
      rw [Nat.mul_succ] at this
      omega

theorem Execution.steps_eq {report : Report} (h : Execution options s trace ⟨.ok report, canvas⟩) :
    report.steps = s.steps + trace.length := by
  generalize out : (⟨.ok report, canvas⟩ : Outcome) = o at h
  induction h with
  | done =>
    cases out
    rfl
  | halt => cases out
  | next step _ ih =>
    have counted := step.steps_eq
    rw [ih out, List.length_cons]
    omega

/-! ## Runs that stop at the limit

A run stops at the limit at the jump that it comes to once too often, and there alone. For one
statement this is `Halts.limit_iff`, one branch for each way to halt; the branches of assignments,
calls and conditions say that their faults are of other families.
-/

/-- A statement stops the run at the limit if it is a jump and its counter was there already. -/
theorem Halts.limit_iff (h : Halts options s why canvas) (within : WithinLimit options s)
    (room : options.limit < 0xffffffff) (here : s.pc < p.statements.size) {e : RuntimeError} :
    (why = .fault e ∧ e.fault.isGoToLimit = true) ↔
      s.visits[s.pc].toNat = options.limit ∧ ∃ label condition,
        p.statements[s.pc].action = .goTo label condition ∧
          e = ⟨.goToLimit label options.maxGoToVisits, p.statements[s.pc].span⟩ := by
  cases h with
  | @assign _ value _ _ action evaluated => -- an assignment, whose value faults
    have raises := s.machine.raises_eval options.resolver value
    rw [evaluated] at raises
    constructor
    · rintro ⟨same, limit⟩
      cases same
      cases (Fault.among_apart (by decide) raises).symm.trans limit
    · rintro ⟨-, label, condition, jump, -⟩
      cases action.symm.trans jump
  | counter _ action full => -- a counter that is full, which the limit rules out
    have := Visits.le_of_raise?_eq_none full
    constructor
    · rintro ⟨same, -⟩
      cases same
    · rintro ⟨reached, -⟩
      omega
  | limit _ action raised passed => -- a jump that was reached too often
    have raises := Visits.toNat_raise? raised here
    have bound := within s.pc here
    rw [if_pos rfl] at raises
    -- raised from the limit or below, and past it now, the counter was at the limit
    have passed : options.limit < _ := UInt32.lt_iff_toNat_lt.mp passed
    constructor
    · rintro ⟨same, -⟩
      cases same
      exact ⟨by omega, _, _, action, rfl⟩
    · rintro ⟨-, label, condition, jump, rfl⟩
      cases action.symm.trans jump
      exact ⟨rfl, rfl⟩
  | @jump label condition _ _ _ action raised allowed fails =>
    -- a jump within the limit, whose condition or label faults
    have raises := raises_jump p options s.machine s.pc label condition
    rw [fails] at raises
    constructor
    · rintro ⟨same, limit⟩
      cases same
      rcases raises with raises | rfl
      · cases (Fault.among_apart (by decide) raises).symm.trans limit
      · cases limit
    · rintro ⟨reached, -⟩
      have raises := Visits.toNat_raise? raised here
      rw [if_pos rfl] at raises
      have allowed : UInt32.toNat _ ≤ options.limit := Nat.not_lt.mp allowed
      omega
  | @call b args _ _ _ action called => -- a call that faults, in its arguments or in what it does
    have meets := s.machine.call_meets options.resolver b args
    rw [called] at meets
    constructor
    · rintro ⟨same, limit⟩
      cases same
      rcases meets.allowed_of_fault rfl with raises | raises
      · -- faults of the arguments
        cases (Fault.among_apart (by decide) raises).symm.trans limit
      · -- faults of the command
        cases (Fault.among_apart (by decide) raises).symm.trans limit
    · rintro ⟨-, label, condition, jump, -⟩
      cases action.symm.trans jump

theorem Halts.ne_counterFull (h : Halts options s why canvas) (within : WithinLimit options s)
    (room : options.limit < 0xffffffff) : why ≠ .counterFull := by
  rintro rfl
  cases h with
  | counter here action full =>
    have := Visits.le_of_raise?_eq_none full
    have := within s.pc here
    omega

theorem Execution.ne_counterFull (h : Execution options s trace o) (within : WithinLimit options s)
    (room : options.limit < 0xffffffff) : o.result ≠ .error .counterFull := by
  induction h with
  | done => exact nofun
  | halt halts =>
    intro full
    exact halts.ne_counterFull within room (Except.error.inj full)
  | next step _ ih => exact ih (step.withinLimit within)

/-- A run comes to a jump at most once more than the limit allows. -/
theorem Execution.count_le (h : Execution options s trace o) (within : WithinLimit options s)
    {i : Nat} (lt : i < p.statements.size) (jump : p.statements[i].isJump = true) :
    s.visits[i].toNat + trace.count i ≤ options.limit + 1 := by
  induction h with
  | done =>
    have := within i lt
    rw [List.count_nil]
    omega
  | @halt s why canvas halts =>
    -- the last statement counts for one, whichever it is
    have := within i lt
    have : [s.pc].count i ≤ 1 := List.count_le_length
    omega
  | next step _ ih =>
    have := ih (step.withinLimit within)
    -- the step moves one visit from the trace to the counter
    rw [step.toNat_visits lt jump] at this
    rw [List.count_cons]
    simp only [beq_iff_eq]
    omega

/-- A run stops at the limit exactly if it comes to some jump once more than the limit allows. The
fault is that of the jump. -/
theorem Execution.limit_iff (h : Execution options s trace o) (within : WithinLimit options s)
    (room : options.limit < 0xffffffff) {e : RuntimeError} :
    (o.result = .error (.fault e) ∧ e.fault.isGoToLimit = true) ↔
      ∃ (i : Nat) (lt : i < p.statements.size) (label : String) (condition : Expr),
        p.statements[i].action = .goTo label condition ∧
          s.visits[i].toNat + trace.count i = options.limit + 1 ∧
            e = ⟨.goToLimit label options.maxGoToVisits, p.statements[i].span⟩ := by
  induction h with
  | done =>
    constructor
    · rintro ⟨same, -⟩
      cases same
    · rintro ⟨i, lt, label, condition, action, reached, -⟩
      have := within i lt
      rw [List.count_nil] at reached
      omega
  | @halt s why canvas halts =>
    have here := halts.pc_lt
    rw [Except.error.injEq, halts.limit_iff within room here]
    constructor
    · rintro ⟨reached, label, condition, action, same⟩
      refine ⟨s.pc, here, label, condition, action, ?_, same⟩
      rw [List.count_singleton_self, reached]
    · rintro ⟨i, lt, label, condition, action, reached, same⟩
      have bound := within i lt
      -- the only statement of the run is the jump
      have once : 0 < [s.pc].count i := by omega
      cases List.mem_singleton.mp (List.count_pos_iff.mp once)
      rw [List.count_singleton_self] at reached
      exact ⟨by omega, label, condition, action, same⟩
  | @next s t trace o step _ ih =>
    rw [ih (step.withinLimit within)]
    refine exists_congr fun i => exists_congr fun lt => exists_congr fun label =>
      exists_congr fun condition => and_congr_right fun action => ?_
    -- the counters after the step have already counted it
    rw [step.toNat_visits_add_count lt (Stmt.isJump_iff.mpr ⟨label, condition, action⟩)]

end State

/-! ## Programs

A run from the start has all counters at zero, so the bounds from any state become bounds in the
program alone. A program whose labels are not distinct does not start; it carries out no statement
and meets every bound.
-/

/-- A whole run of a program with the statements it carried out. A program whose labels are not
distinct carries out none. -/
inductive Syntax.Program.Executes (p : Program) (options : RunOptions) (canvas : Canvas) :
    List Nat → State.Outcome → Prop where
  | refuse {e : RuntimeError} (twice : duplicateLabel? [] p.statements.toList = some e) :
      Executes p options canvas [] ⟨.error (.fault e), canvas⟩
  | start {trace : List Nat} {o : State.Outcome}
      (distinct : duplicateLabel? [] p.statements.toList = none)
      (execution : State.Execution options (State.start p canvas) trace o) :
      Executes p options canvas trace o

namespace Syntax.Program

variable {p : Program} {options : RunOptions} {canvas : Canvas} {trace : List Nat}
  {o : State.Outcome}

theorem executes_run (p : Program) (options : RunOptions) (canvas : Canvas) :
    ∃ trace, p.Executes options canvas trace (p.run options canvas) := by
  unfold run
  split
  · next twice => exact ⟨[], .refuse twice⟩
  · next distinct =>
    obtain ⟨trace, execution⟩ := State.execution_run options (State.start p canvas)
    exact ⟨trace, .start distinct execution⟩

theorem Executes.length_le (h : p.Executes options canvas trace o) :
    trace.length ≤ p.statements.size * (p.jumps * options.limit + 1) := by
  cases h with
  | refuse => exact Nat.zero_le _
  | start _ execution =>
    have bound := execution.length_le
    rw [State.budget_start] at bound
    rw [Nat.mul_succ, Nat.add_comm]
    exact bound

theorem Executes.count_le (h : p.Executes options canvas trace o) {i : Nat}
    (lt : i < p.statements.size) (jump : p.statements[i].isJump = true) :
    trace.count i ≤ options.limit + 1 := by
  cases h with
  | refuse => exact Nat.zero_le _
  | start _ execution =>
    have bound := execution.count_le (State.withinLimit_start options p canvas) lt jump
    rw [State.start, Vector.getElem_replicate, UInt32.toNat_zero, Nat.zero_add] at bound
    exact bound

theorem Executes.steps_eq {report : Report} (h : p.Executes options canvas trace o)
    (ended : o.result = .ok report) : report.steps = trace.length := by
  cases h with
  | refuse => cases ended
  | start _ execution =>
    obtain ⟨result, left⟩ := o
    cases ended
    rw [execution.steps_eq]
    exact Nat.zero_add _

theorem Executes.ne_counterFull (h : p.Executes options canvas trace o)
    (room : options.limit < 0xffffffff) : o.result ≠ .error .counterFull := by
  cases h with
  | refuse => exact nofun
  | start _ execution =>
    exact execution.ne_counterFull (State.withinLimit_start options p canvas) room

theorem Executes.limit_iff (h : p.Executes options canvas trace o)
    (room : options.limit < 0xffffffff) {e : RuntimeError} :
    (o.result = .error (.fault e) ∧ e.fault.isGoToLimit = true) ↔
      ∃ (i : Nat) (lt : i < p.statements.size) (label : String) (condition : Expr),
        p.statements[i].action = .goTo label condition ∧ trace.count i = options.limit + 1 ∧
          e = ⟨.goToLimit label options.maxGoToVisits, p.statements[i].span⟩ := by
  cases h with
  | refuse twice =>
    constructor
    · rintro ⟨same, limit⟩
      cases same
      -- the fault is that of the label which stands twice
      obtain ⟨label, fault⟩ := State.fault_of_duplicateLabel? twice
      rw [fault] at limit
      cases limit
    · rintro ⟨i, lt, label, condition, action, reached, -⟩
      cases reached
  | start _ execution =>
    rw [execution.limit_iff (State.withinLimit_start options p canvas) room]
    simp only [State.start, Vector.getElem_replicate, UInt32.toNat_zero, Nat.zero_add]

/-- Every run of a program ends after a number of statements that its size, its jumps and the limit
bound. It stops at the limit exactly if it comes to some jump once more than the limit allows. And
no statement takes longer for a greater number in it: a line has at most as many cells as the canvas
has in a row, and one try more. -/
theorem run_terminates (p : Program) (options : RunOptions) (canvas : Canvas)
    (room : options.maxGoToVisits.toNat < 2 ^ 32 - 1) :
    (∃ trace, p.Executes options canvas trace (p.run options canvas) ∧
      trace.length ≤ p.statements.size * (p.jumps * options.maxGoToVisits.toNat + 1) ∧
      (∀ report, (p.run options canvas).result = .ok report → report.steps = trace.length) ∧
      (p.run options canvas).result ≠ .error .counterFull ∧
      (∀ (i : Nat) (lt : i < p.statements.size), p.statements[i].isJump = true →
        trace.count i ≤ options.maxGoToVisits.toNat + 1) ∧
      ∀ e, ((p.run options canvas).result = .error (.fault e) ∧ e.fault.isGoToLimit = true) ↔
        ∃ (i : Nat) (lt : i < p.statements.size) (label : String) (condition : Expr),
          p.statements[i].action = .goTo label condition ∧
            trace.count i = options.maxGoToVisits.toNat + 1 ∧
            e = ⟨.goToLimit label options.maxGoToVisits, p.statements[i].span⟩) ∧
    ∀ (m : Machine) (dx dy distance : Int64) (cell step : Point) (length : Int),
      m.lineCourse dx dy distance = .ok (cell, step, length) →
        m.drawLine dx dy distance =
          m.drawCells cell step (min length.toNat (m.canvas.side + 1)) := by
  obtain ⟨trace, executes⟩ := executes_run p options canvas
  refine ⟨⟨trace, executes, executes.length_le, ?_, ?_, ?_, ?_⟩, ?_⟩
  · intro report ended
    exact executes.steps_eq ended
  · exact executes.ne_counterFull room
  · intro i lt jump
    exact executes.count_le lt jump
  · intro e
    exact executes.limit_iff room
  · intro m dx dy distance cell step length course
    exact Machine.drawLine_eq_min course

/-- Two statements that go round for as long as the limit allows. -/
def endless : Program :=
  ⟨#[⟨.label "again", default⟩, ⟨.goTo "again" (.boolean true default), default⟩]⟩

theorem run_terminates_endless :
    (3 : UInt32).toNat < 2 ^ 32 - 1 ∧ ∃ trace,
      endless.Executes ⟨none, 3⟩ (Canvas.filled 1 .white) trace
        (endless.run ⟨none, 3⟩ (Canvas.filled 1 .white)) ∧ trace.length ≤ 2 * (1 * 3 + 1) := by
  have room : (3 : UInt32).toNat < 2 ^ 32 - 1 := by decide
  obtain ⟨⟨trace, executes, length_le, -⟩, -⟩ :=
    run_terminates endless ⟨none, 3⟩ (Canvas.filled 1 .white) room
  exact ⟨room, trace, executes, length_le⟩

end Syntax.Program
end BrushScript
