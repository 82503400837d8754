import BrushScript.Proofs.Machine.Termination
import BrushScript.Settings

/-!
# The range of the visit counters

The counter of a jump is raised before it is compared with the limit, so it has to hold one visit
more than the limit allows. Every limit but the greatest leaves room for that visit.
`Program.run_fills_counter_iff` says of every run whether a counter gets full: under the greatest
limit, when the run comes to a jump for the 2³²-th time. The visits before are counted without a
loss, and no jump is carried out more often than the limit allows.

The argument is that of the limit, one visit later. A counter is the number of visits to its jump,
so it cannot be raised exactly when the run has been there as often as 32 bits can tell. The bound
that the limit puts on the visits leaves room for that only if the limit is itself the greatest
number. That such runs exist is shown by the program of two statements that goes round for ever,
whose every visit is a state that it reaches (`exists_reaches_endless`).
-/

namespace BrushScript

open Syntax

/-- A counter cannot be raised exactly if it has its greatest value. -/
theorem Visits.raise?_eq_none_iff {n : Nat} {v : Visits n} {i : Nat} {h : i < n} :
    v.raise? i h = none ↔ v[i].toNat + 1 = 2 ^ 32 := by
  have := v[i].toNat_lt
  constructor
  · intro full
    have := le_of_raise?_eq_none full
    omega
  · intro greatest
    unfold raise?
    rw [if_neg (by omega)]

namespace State

variable {p : Program} {options : RunOptions} {s t : State p} {why : Stop} {canvas : Canvas}
  {trace : List Nat} {o : Outcome}

/-- A statement stops the run over a full counter exactly if it is a jump and the counter is its
own. -/
theorem Halts.counterFull_iff (h : Halts options s why canvas) (here : s.pc < p.statements.size) :
    why = .counterFull ↔
      p.statements[s.pc].isJump = true ∧ s.visits[s.pc].toNat + 1 = 2 ^ 32 := by
  cases h with
  | counter _ action full =>
    exact ⟨fun _ => ⟨Stmt.isJump_iff.mpr ⟨_, _, action⟩, Visits.raise?_eq_none_iff.mp full⟩,
      fun _ => rfl⟩
  | limit _ _ raised | jump _ _ raised => -- the counter was raised, so it was not full
    constructor
    · exact nofun
    · rintro ⟨-, greatest⟩
      cases raised.symm.trans (Visits.raise?_eq_none_iff.mpr greatest)
  | assign _ action | call _ action => -- the statement is no jump
    constructor
    · exact nofun
    · rintro ⟨jump, -⟩
      obtain ⟨label, condition, other⟩ := Stmt.isJump_iff.mp jump
      cases action.symm.trans other

/-- A run stops over a full counter exactly if it comes to some jump for the 2³²-th time. -/
theorem Execution.counterFull_iff (h : Execution options s trace o) :
    o.result = .error .counterFull ↔
      ∃ (i : Nat) (lt : i < p.statements.size),
        p.statements[i].isJump = true ∧ s.visits[i].toNat + trace.count i = 2 ^ 32 := by
  induction h with
  | @done s =>
    constructor
    · exact nofun
    · rintro ⟨i, lt, -, reached⟩
      -- a counter of 32 bits has not got there
      have := s.visits[i].toNat_lt
      rw [List.count_nil] at reached
      omega
  | @halt s why canvas halts =>
    have here := halts.pc_lt
    rw [Except.error.injEq, halts.counterFull_iff here]
    constructor
    · rintro ⟨jump, greatest⟩
      exact ⟨s.pc, here, jump, by rw [List.count_singleton_self, greatest]⟩
    · rintro ⟨i, lt, jump, reached⟩
      -- the counter itself cannot have got so far, and the only statement of the run is the jump
      have := s.visits[i].toNat_lt
      have once : 0 < [s.pc].count i := by omega
      cases List.mem_singleton.mp (List.count_pos_iff.mp once)
      rw [List.count_singleton_self] at reached
      exact ⟨jump, reached⟩
  | next step _ ih =>
    rw [ih]
    refine exists_congr fun i => exists_congr fun lt => and_congr_right fun jump => ?_
    rw [step.toNat_visits_add_count lt jump]

theorem Passes.withinLimit (h : Passes options s trace t) (within : WithinLimit options s) :
    WithinLimit options t := by
  induction h with
  | here => exact within
  | next step _ ih => exact ih (step.withinLimit within)

/-- The counter of a jump has counted every visit on the way. -/
theorem Passes.toNat_visits (h : Passes options s trace t) {i : Nat}
    (lt : i < p.statements.size) (jump : p.statements[i].isJump = true) :
    t.visits[i].toNat = s.visits[i].toNat + trace.count i := by
  induction h with
  | here => rw [List.count_nil, Nat.add_zero]
  | next step _ ih => rw [ih, step.toNat_visits_add_count lt jump]

/-- A step does not change what the run comes to. -/
theorem Step.run_eq (h : Step options s t) : s.run options = t.run options := by
  obtain ⟨trace, later⟩ := execution_run options t
  exact (Execution.next h later).eq_run.symm

theorem Reaches.run_eq (h : Reaches options s t) : s.run options = t.run options := by
  induction h with
  | refl => rfl
  | tail _ step ih => exact ih.trans step.run_eq

end State

namespace Syntax.Program

open State

variable {p : Program} {options : RunOptions} {canvas : Canvas} {trace : List Nat} {o : Outcome}

theorem Executes.counterFull_iff_count (h : p.Executes options canvas trace o) :
    o.result = .error .counterFull ↔
      ∃ (i : Nat) (lt : i < p.statements.size),
        p.statements[i].isJump = true ∧ trace.count i = 2 ^ 32 := by
  cases h with
  | refuse =>
    constructor
    · exact nofun
    · rintro ⟨i, lt, -, reached⟩
      cases reached
  | start _ execution =>
    rw [execution.counterFull_iff]
    simp only [State.start, Vector.getElem_replicate, UInt32.toNat_zero, Nat.zero_add]

/-- A counter gets full in a run exactly if the limit is the greatest one and the run comes to some
jump for the 2³²-th time. On the way of every run the counters have counted all visits of the jumps,
and no jump is carried out more often than the limit allows. -/
theorem run_fills_counter_iff (p : Program) (options : RunOptions) (canvas : Canvas) :
    (∃ trace, p.Executes options canvas trace (p.run options canvas) ∧
      ((p.run options canvas).result = .error .counterFull ↔
        options.maxGoToVisits.toNat + 1 = 2 ^ 32 ∧
          ∃ (i : Nat) (lt : i < p.statements.size),
            p.statements[i].isJump = true ∧ trace.count i = 2 ^ 32)) ∧
    ∀ (trace : List Nat) (s : State p), Passes options (State.start p canvas) trace s →
      ∀ (i : Nat) (lt : i < p.statements.size), p.statements[i].isJump = true →
        s.visits[i].toNat = trace.count i ∧ trace.count i ≤ options.maxGoToVisits.toNat := by
  constructor
  · obtain ⟨trace, executes⟩ := executes_run p options canvas
    refine ⟨trace, executes, ?_⟩
    rw [executes.counterFull_iff_count]
    constructor
    · rintro ⟨i, lt, jump, reached⟩
      have : trace.count i ≤ options.maxGoToVisits.toNat + 1 := executes.count_le lt jump
      have := options.maxGoToVisits.toNat_lt
      exact ⟨by omega, i, lt, jump, reached⟩
    · rintro ⟨-, reached⟩
      exact reached
  · intro trace s passes i lt jump
    have counted := passes.toNat_visits lt jump
    have within := passes.withinLimit (withinLimit_start options p canvas) i lt
    rw [State.start, Vector.getElem_replicate, UInt32.toNat_zero, Nat.zero_add] at counted
    exact ⟨counted, counted ▸ within⟩

/-- The two endless statements come to their jump with any number of visits behind them that a
counter can hold. -/
theorem exists_reaches_endless (canvas : Canvas) {n : Nat} (lt : n < 2 ^ 32) :
    ∃ (m : Machine) (visits : Visits endless.statements.size) (steps : Nat),
      Reaches ⟨none, 0xffffffff⟩ (State.start endless canvas) ⟨m, 1, visits, steps⟩ ∧
        ∃ _ : 1 < endless.statements.size, visits[1].toNat = n := by
  induction n with
  | zero => exact ⟨_, _, _, .single (.label Nat.two_pos rfl), Nat.one_lt_two, rfl⟩
  | succ n ih =>
    obtain ⟨m, visits, steps, reaches, here, visited⟩ := ih (by omega)
    cases raised : visits.raise? 1 here with
    | none =>
      have := Visits.raise?_eq_none_iff.mp raised -- that many visits still fit
      omega
    | some visits' =>
      have counted := Visits.toNat_raise? raised here
      -- no number of 32 bits is past the greatest limit
      have allowed : ¬ (0xffffffff : UInt32) < visits'[1] := by
        rw [UInt32.not_lt, UInt32.le_iff_toNat_le]
        exact Nat.le_pred_of_lt (UInt32.toNat_lt _)
      have found : target? endless "again" = some 0 :=
        target?_eq_some_iff.mpr ⟨Nat.two_pos, rfl, nofun⟩
      have lands : jump endless ⟨none, 0xffffffff⟩ m 1 "again" (.boolean true default) = .ok 0 := by
        simp only [jump, Machine.eval, bind, Except.bind, found]
        rfl
      have back := reaches.tail (.jump here rfl raised allowed lands)
      exact ⟨_, _, _, back.tail (.label Nat.two_pos rfl), here, by simpa [visited] using counted⟩

/-- Under the greatest limit, which settings may have, a run can fill a counter. -/
theorem run_fills_counter_endless :
    ({ Settings.default with maxGoToVisits := 0xffffffff } : Settings).problem? = none ∧
      (endless.run ⟨none, 0xffffffff⟩ (Canvas.filled 1 .white)).result =
        .error .counterFull := by
  refine ⟨by decide, ?_⟩
  obtain ⟨m, visits, steps, reaches, here, visited⟩ :=
    exists_reaches_endless (Canvas.filled 1 .white) (show 2 ^ 32 - 1 < 2 ^ 32 by decide)
  have full : visits.raise? 1 here = none :=
    Visits.raise?_eq_none_iff.mpr (by omega)
  have halts : Halts ⟨none, 0xffffffff⟩ (⟨m, 1, visits, steps⟩ : State endless) .counterFull
      m.canvas := .counter here rfl full
  show ((State.start endless _).run _).result = _
  rw [reaches.run_eq, ← (Execution.halt halts).eq_run]

end Syntax.Program
end BrushScript
