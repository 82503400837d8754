import BrushScript.Machine.Run
import Mathlib.Logic.Relation

/-!
# Steps, reachable states and executions

The step function as two relations, so that a proof about runs is a case analysis on what one
statement did and no proof unfolds the function:

* `State.Step` — the statement under the program counter was carried out (`step_eq_next_iff`);
* `State.Halts` — it stopped the run (`step_eq_stop_iff`).

Each rule carries all that the function looked at before it came there: the kind of the statement,
the counter that was raised or could not be, the limit, and what the expression came to. With an
equation for the statement at hand, `cases` leaves the rules of its kind only.

`State.Reaches` closes the steps under repetition. `State.Execution` is a whole run with the program
counters of the statements it carried out, the one that stopped it included; `execution_run` says
that `State.run` is such an execution, and `Execution.eq_run` that there is no other.
`State.Passes` is a stretch of a run, with its program counters likewise.

Two ways lead from here to statements about programs. An invariant of the states goes through
`Reaches.keeps` and `stop_cases` or `end_cases`; a statement about the statements that a run came to
goes by induction on its `Execution`.
-/

namespace BrushScript.State

open Syntax

variable {p : Program} {options : RunOptions}

/-! ## One statement

A step has four rules, one for each kind of statement, and a halt has five: a jump can stop a run
because its counter is full, because the limit is passed, or because its condition or its label
faults. `step_spec` is the only proof that opens the step function from the front; the two
equivalences behind it close the case.
-/

/-- The statement under the program counter was carried out, one rule for each kind. -/
inductive Step (options : RunOptions) (s : State p) : State p → Prop where
  | assign {name : String} {value : Expr} {v : Value} (here : s.pc < p.statements.size)
      (action : p.statements[s.pc].action = .assign name value)
      (evaluated : s.machine.eval options.resolver value = .ok v) :
      Step options s { s with
        machine := { s.machine with scope := s.machine.scope.set name v }
        pc := s.pc + 1
        steps := s.steps + 1 }
  | label {name : String} (here : s.pc < p.statements.size)
      (action : p.statements[s.pc].action = .label name) : Step options s (s.goTo (s.pc + 1))
  | jump {label : String} {condition : Expr} {visits : Visits p.statements.size} {target : Nat}
      (here : s.pc < p.statements.size)
      (action : p.statements[s.pc].action = .goTo label condition)
      (raised : s.visits.raise? s.pc here = some visits)
      (allowed : ¬ options.maxGoToVisits < visits[s.pc])
      (lands : jump p options s.machine s.pc label condition = .ok target) :
      Step options s { s with visits, pc := target, steps := s.steps + 1 }
  | call {b : Builtin} {args : List Expr} {m : Machine} (here : s.pc < p.statements.size)
      (action : p.statements[s.pc].action = .call b args)
      (called : s.machine.call options.resolver b args = ⟨m, none⟩) :
      Step options s { s with machine := m, pc := s.pc + 1, steps := s.steps + 1 }

/-- The statement under the program counter stopped the run and left a canvas. -/
inductive Halts (options : RunOptions) (s : State p) : Stop → Canvas → Prop where
  | assign {name : String} {value : Expr} {fault : Fault} (here : s.pc < p.statements.size)
      (action : p.statements[s.pc].action = .assign name value)
      (evaluated : s.machine.eval options.resolver value = .error fault) :
      Halts options s (.fault ⟨fault, p.statements[s.pc].span⟩) s.machine.canvas
  | counter {label : String} {condition : Expr} (here : s.pc < p.statements.size)
      (action : p.statements[s.pc].action = .goTo label condition)
      (full : s.visits.raise? s.pc here = none) : Halts options s .counterFull s.machine.canvas
  | limit {label : String} {condition : Expr} {visits : Visits p.statements.size}
      (here : s.pc < p.statements.size)
      (action : p.statements[s.pc].action = .goTo label condition)
      (raised : s.visits.raise? s.pc here = some visits)
      (passed : options.maxGoToVisits < visits[s.pc]) :
      Halts options s
        (.fault ⟨.goToLimit label options.maxGoToVisits, p.statements[s.pc].span⟩)
        s.machine.canvas
  | jump {label : String} {condition : Expr} {visits : Visits p.statements.size} {fault : Fault}
      (here : s.pc < p.statements.size)
      (action : p.statements[s.pc].action = .goTo label condition)
      (raised : s.visits.raise? s.pc here = some visits)
      (allowed : ¬ options.maxGoToVisits < visits[s.pc])
      (fails : State.jump p options s.machine s.pc label condition = .error fault) :
      Halts options s (.fault ⟨fault, p.statements[s.pc].span⟩) s.machine.canvas
  | call {b : Builtin} {args : List Expr} {m : Machine} {fault : Fault}
      (here : s.pc < p.statements.size)
      (action : p.statements[s.pc].action = .call b args)
      (called : s.machine.call options.resolver b args = ⟨m, some fault⟩) :
      Halts options s (.fault ⟨fault, p.statements[s.pc].span⟩) m.canvas

variable {s t u : State p} {why : Stop} {canvas : Canvas}

theorem Step.pc_lt (h : Step options s t) : s.pc < p.statements.size := by
  cases h <;> assumption

theorem Halts.pc_lt (h : Halts options s why canvas) : s.pc < p.statements.size := by
  cases h <;> assumption

/-- What a step did at a call. -/
theorem Step.called (h : Step options s t) {b : Builtin} {args : List Expr}
    {here : s.pc < p.statements.size} (action : p.statements[s.pc].action = .call b args) :
    s.machine.call options.resolver b args = ⟨t.machine, none⟩ := by
  cases h with
  | assign _ other => cases other.symm.trans action
  | label _ other => cases other.symm.trans action
  | jump _ other => cases other.symm.trans action
  | call _ same called =>
    cases same.symm.trans action
    exact called

theorem Step.steps_eq (h : Step options s t) : t.steps = s.steps + 1 := by
  cases h <;> rfl

/-- What the step function does: it goes on by a rule of `Step` or stops by a rule of `Halts`. -/
theorem step_spec (options : RunOptions) (s : State p) (here : s.pc < p.statements.size) :
    (∃ t, s.step options here = .next t ∧ Step options s t) ∨
      ∃ why canvas, s.step options here = .stop why canvas ∧ Halts options s why canvas := by
  unfold step
  dsimp only
  -- the kinds of statements, each with the ways in which it can end
  split
  next name value action =>
    split
    · next fault evaluated => exact .inr ⟨_, _, rfl, .assign here action evaluated⟩
    · next v evaluated => exact .inl ⟨_, rfl, .assign here action evaluated⟩
  next name action => exact .inl ⟨_, rfl, .label here action⟩
  next label condition action =>
    split
    · next full => exact .inr ⟨_, _, rfl, .counter here action full⟩
    · next visits raised =>
      split
      · next passed => exact .inr ⟨_, _, rfl, .limit here action raised passed⟩
      · next allowed =>
        split
        · next fault fails => exact .inr ⟨_, _, rfl, .jump here action raised allowed fails⟩
        · next target lands => exact .inl ⟨_, rfl, .jump here action raised allowed lands⟩
  next b args action =>
    split
    · next m fault called => exact .inr ⟨_, _, rfl, .call here action called⟩
    · next m called => exact .inl ⟨_, rfl, .call here action called⟩

theorem Step.eq_next (h : Step options s t) (here : s.pc < p.statements.size) :
    s.step options here = .next t := by
  unfold step
  cases h with
  | assign _ action evaluated => simp only [action, evaluated]
  | label _ action => simp only [action]
  | jump _ action raised allowed lands => simp only [action, raised, allowed, lands, if_false]
  | call _ action called => simp only [action, called]

theorem Halts.eq_stop (h : Halts options s why canvas) (here : s.pc < p.statements.size) :
    s.step options here = .stop why canvas := by
  unfold step
  cases h with
  | assign _ action evaluated => simp only [action, evaluated]
  | counter _ action full => simp only [action, full]
  | limit _ action raised passed => simp only [action, raised, passed, if_true]
  | jump _ action raised allowed fails => simp only [action, raised, allowed, fails, if_false]
  | call _ action called => simp only [action, called]

theorem step_eq_next_iff {here : s.pc < p.statements.size} :
    s.step options here = .next t ↔ Step options s t := by
  constructor
  · intro h
    obtain ⟨t', eq, step⟩ | ⟨why, canvas, eq, -⟩ := step_spec options s here
    -- a state and a stop are different transitions
    · cases eq.symm.trans h
      exact step
    · cases eq.symm.trans h
  · exact fun h => h.eq_next here

theorem step_eq_stop_iff {here : s.pc < p.statements.size} :
    s.step options here = .stop why canvas ↔ Halts options s why canvas := by
  constructor
  · intro h
    obtain ⟨t', eq, -⟩ | ⟨why, canvas, eq, halts⟩ := step_spec options s here
    · cases eq.symm.trans h
    · cases eq.symm.trans h
      exact halts
  · exact fun h => h.eq_stop here

/-! ## Where a step leads

Apart from jumps the program counter goes on to the next statement. A jump goes on as well if its
condition is false, and otherwise to the first statement with its label.
-/

/-- The label of a jump stands at its target, and at no earlier statement. -/
theorem target?_eq_some_iff {label : String} {i : Nat} :
    target? p label = some i ↔ ∃ h : i < p.statements.size,
      p.statements[i].label? = some label ∧
        ∀ j < i, p.statements[j]?.bind Stmt.label? ≠ some label := by
  simp only [target?, Array.findIdx?_eq_some_iff_getElem, beq_iff_eq]
  refine exists_congr fun h => and_congr_right fun _ => ?_
  refine forall_congr' fun j => forall_congr' fun lt => ?_
  rw [Array.getElem?_eq_getElem (Nat.lt_trans lt h), Option.bind_some]

/-- A jump statement leads to the next statement or to its label. -/
theorem jump_lands {m : Machine} {pc target : Nat} {label : String} {condition : Expr}
    (lands : jump p options m pc label condition = .ok target) :
    target = pc + 1 ∨ target? p label = some target := by
  unfold jump at lands
  cases evaluated : m.eval options.resolver condition with
  | error fault => -- the condition faults
    rw [evaluated] at lands
    cases lands
  | ok v =>
    rw [evaluated] at lands
    match v with
    | .boolean false => -- the condition is false
      cases lands
      exact .inl rfl
    | .boolean true => -- the condition is true
      cases found : target? p label with
      | none =>
        simp only [bind, Except.bind, found] at lands
        cases lands
      | some place =>
        simp only [bind, Except.bind, found] at lands
        cases lands
        exact .inr rfl
    | .number _ | .string _ => cases lands -- the condition is no truth value

/-- The program counter goes on to the next statement, or to the label of a jump. -/
theorem Step.pc_eq (h : Step options s t) :
    t.pc = s.pc + 1 ∨ ∃ (here : s.pc < p.statements.size) (label : String) (condition : Expr),
      p.statements[s.pc].action = .goTo label condition ∧ target? p label = some t.pc := by
  cases h with
  | assign | label | call => exact .inl rfl
  | jump here action _ _ lands =>
    rcases jump_lands lands with on | found
    · exact .inl on
    · exact .inr ⟨here, _, _, action, found⟩

/-! ## Reachable states -/

/-- A state that some number of statements lead to. -/
def Reaches (options : RunOptions) : State p → State p → Prop :=
  Relation.ReflTransGen (Step options)

/-- What one statement keeps, every reachable state has. -/
theorem Reaches.keeps {Inv : State p → Prop} (reaches : Reaches options s t) (start : Inv s)
    (step : ∀ {u v}, Inv u → Step options u v → Inv v) : Inv t := by
  induction reaches with
  | refl => exact start
  | tail _ last ih => exact step ih last

/-! ## Executions

An execution ends in one of two ways, behind the last statement or at a statement that stops the
run. Its list of program counters is the order in which the run came to the statements, each as
often as it came to it.
-/

/-- A run from a state to its end, with the program counters of the statements it carried out. -/
inductive Execution (options : RunOptions) : State p → List Nat → Outcome → Prop where
  | done {s : State p} (ended : ¬ s.pc < p.statements.size) :
      Execution options s [] ⟨.ok s.report, s.machine.canvas⟩
  | halt {s : State p} {why : Stop} {canvas : Canvas} (halts : Halts options s why canvas) :
      Execution options s [s.pc] ⟨.error why, canvas⟩
  | next {s t : State p} {trace : List Nat} {o : Outcome} (step : Step options s t)
      (later : Execution options t trace o) : Execution options s (s.pc :: trace) o

variable {trace : List Nat} {o : Outcome}

theorem execution_run (options : RunOptions) (s : State p) :
    ∃ trace, Execution options s trace (s.run options) := by
  fun_induction run options s with
  -- the three ways of the function are the three rules
  | case1 s here t moved ih =>
    obtain ⟨trace, later⟩ := ih
    exact ⟨_, .next (step_eq_next_iff.mp moved) later⟩
  | case2 s here why canvas stopped => exact ⟨_, .halt (step_eq_stop_iff.mp stopped)⟩
  | case3 s ended => exact ⟨_, .done ended⟩

/-- There is one execution from a state, and it comes to what the run comes to. -/
theorem Execution.eq_run (h : Execution options s trace o) : o = s.run options := by
  induction h with
  | done ended => rw [run, dif_neg ended]
  | halt halts =>
    rw [run, dif_pos halts.pc_lt]
    split
    -- a statement does not both go on and stop
    · next moved => cases moved.symm.trans (halts.eq_stop _)
    · next stopped =>
      cases stopped.symm.trans (halts.eq_stop _)
      rfl
  | next step _ ih =>
    rw [run, dif_pos step.pc_lt]
    split
    · next moved =>
      cases moved.symm.trans (step.eq_next _)
      exact ih
    · next stopped => cases stopped.symm.trans (step.eq_next _)

/-! ## The way of a run

A stretch that a run has behind it, with the state it leads to. Every execution is such a stretch
and its end: `Execution.passes_ends` for a run that gets there, `Execution.passes_halts` for one
that is stopped.
-/

/-- Statements lead from one state to another; they are listed by their program counters. -/
inductive Passes (options : RunOptions) : State p → List Nat → State p → Prop where
  | here {s : State p} : Passes options s [] s
  | next {s t u : State p} {trace : List Nat} (step : Step options s t)
      (later : Passes options t trace u) : Passes options s (s.pc :: trace) u

theorem Passes.reaches (h : Passes options s trace t) : Reaches options s t := by
  induction h with
  | here => exact .refl
  | next step _ ih => exact .head step ih

/-- An execution goes on from where the first statements lead. -/
theorem Passes.execution (h : Passes options s trace t) {later : List Nat}
    (rest : Execution options t later o) : Execution options s (trace ++ later) o := by
  induction h with
  | here => exact rest
  | next step _ ih => exact .next step (ih rest)

/-- A run that does not reach its end passes to the statement that halts it. -/
theorem Execution.passes_halts (h : Execution options s trace ⟨.error why, canvas⟩) :
    ∃ before t, trace = before ++ [t.pc] ∧ Passes options s before t ∧
      Halts options t why canvas := by
  -- the outcome has to be a variable for the induction
  generalize out : (⟨.error why, canvas⟩ : Outcome) = o at h
  induction h with
  | done => cases out
  | @halt s _ _ halts =>
    cases out
    exact ⟨[], s, rfl, .here, halts⟩
  | next step _ ih =>
    obtain ⟨before, t, rfl, passes, halts⟩ := ih out
    exact ⟨_, t, rfl, .next step passes, halts⟩

/-- A run that reaches its end passes to a state behind the last statement, and tells of it. -/
theorem Execution.passes_ends {report : Report}
    (h : Execution options s trace ⟨.ok report, canvas⟩) :
    ∃ t, Passes options s trace t ∧ ¬ t.pc < p.statements.size ∧
      report = t.report ∧ canvas = t.machine.canvas := by
  generalize out : (⟨.ok report, canvas⟩ : Outcome) = o at h
  induction h with
  | done ended =>
    cases out
    exact ⟨_, .here, ended, rfl, rfl⟩
  | halt => cases out
  | next step _ ih =>
    obtain ⟨t, passes, told⟩ := ih out
    exact ⟨t, .next step passes, told⟩

/-- A run that does not reach its end halts in a reachable state. -/
theorem Execution.halts (h : Execution options s trace ⟨.error why, canvas⟩) :
    ∃ t, Reaches options s t ∧ Halts options t why canvas := by
  obtain ⟨_, t, _, passes, halts⟩ := h.passes_halts
  exact ⟨t, passes.reaches, halts⟩

/-- A run that reaches its end tells of the state that it reached. -/
theorem Execution.ends {report : Report} (h : Execution options s trace ⟨.ok report, canvas⟩) :
    ∃ t, Reaches options s t ∧ ¬ t.pc < p.statements.size ∧
      report = t.report ∧ canvas = t.machine.canvas := by
  obtain ⟨t, passes, told⟩ := h.passes_ends
  exact ⟨t, passes.reaches, told⟩

/-- The canvas of an outcome is that of a reachable state, or what the statement that halts the run
there has left. -/
theorem Execution.leaves (h : Execution options s trace o) :
    ∃ t, Reaches options s t ∧
      (o.canvas = t.machine.canvas ∨ ∃ why, Halts options t why o.canvas) := by
  obtain ⟨result, left⟩ := o
  cases result with
  | ok report =>
    obtain ⟨t, reaches, -, -, same⟩ := h.ends
    exact ⟨t, reaches, .inl same⟩
  | error why =>
    obtain ⟨t, reaches, halts⟩ := h.halts
    exact ⟨t, reaches, .inr ⟨why, halts⟩⟩

theorem Outcome.eq_of_result {o : Outcome} {result : Except Stop Report} (h : o.result = result) :
    o = ⟨result, o.canvas⟩ := by
  rw [← h]

/-! ## Programs -/

theorem fault_of_duplicateLabel? {seen : List String} {statements : List Stmt} {e : RuntimeError}
    (twice : duplicateLabel? seen statements = some e) :
    ∃ label, e.fault = .duplicateLabel label := by
  fun_induction duplicateLabel? seen statements with
  | case1 => cases twice
  | case2 _ _ _ _ ih => exact ih twice
  | case3 _ _ _ label =>
    cases twice
    exact ⟨label, rfl⟩
  | case4 _ _ _ _ _ _ ih => exact ih twice

/-- A run of a program stops because its labels are not distinct, which is found before the first
statement, or because a statement stops it. -/
theorem stop_cases (stopped : (p.run options canvas).result = .error why) :
    (∃ e, why = .fault e ∧ duplicateLabel? [] p.statements.toList = some e ∧
        (p.run options canvas).canvas = canvas) ∨
      ∃ s, Reaches options (start p canvas) s ∧
        Halts options s why (p.run options canvas).canvas := by
  unfold Program.run at *
  split at stopped
  · next e twice =>
    cases stopped
    exact .inl ⟨e, rfl, twice, rfl⟩
  · obtain ⟨trace, execution⟩ := execution_run options (start p canvas)
    rw [Outcome.eq_of_result stopped] at execution
    exact .inr execution.halts

/-- A run of a program that gets to its end tells of the state that it reached. -/
theorem end_cases {report : Report} (ended : (p.run options canvas).result = .ok report) :
    ∃ s, Reaches options (start p canvas) s ∧ ¬ s.pc < p.statements.size ∧
      report = s.report ∧ (p.run options canvas).canvas = s.machine.canvas := by
  unfold Program.run at *
  split at ended
  · cases ended
  · obtain ⟨trace, execution⟩ := execution_run options (start p canvas)
    rw [Outcome.eq_of_result ended] at execution
    exact execution.ends

end BrushScript.State
