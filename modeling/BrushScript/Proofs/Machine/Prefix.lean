import BrushScript.Proofs.Machine.Termination
import BrushScript.Typing

/-!
# Running the first statements alone

A program that is cut off behind some statement does what the whole program does for as long as it
can. `State.Extends s t` says that a state `t` of the whole program agrees with a state `s` of its
first statements on all that the latter knows: the machine, the program counter, the steps and the
counters of those statements. One statement keeps the two in step (`Extends.step`), or stops both
in the same way (`Extends.halts`), unless it is a jump to a label that was cut off.
`prefix_run_faithful` follows from both along the whole run.

The two runs have different states, since the counters are a list with one place for each statement
and the programs have different sizes. So the states are not compared for equality, and the counters
only at the statements that both programs have. A jump leads to the same statement in both, because
it takes the first statement with its label, and a statement that was cut off stands behind all that
were not.
-/

namespace BrushScript

open Syntax Typing

/-! ## The first statements

The first statements are a program of their own. Its statements are those of the whole program at
the same places, and its labels are distinct if those of the whole program are, so its run starts if
that of the whole program does.
-/

namespace Syntax.Program

variable {p : Program} {n i : Nat}

/-- No label stands at two statements. -/
def LabelsDistinct (p : Program) : Prop := (labelsOf p.statements.toList).Nodup

instance (p : Program) : Decidable p.LabelsDistinct := inferInstanceAs (Decidable (List.Nodup _))

theorem size_take (le : n ≤ p.statements.size) : (p.take n).statements.size = n := by
  simp [take, Nat.min_eq_left le]

theorem lt_of_lt_take (cut : i < (p.take n).statements.size) : i < p.statements.size := by
  simp only [take, Array.size_extract] at cut
  omega

theorem getElem_take (cut : i < (p.take n).statements.size) (whole : i < p.statements.size) :
    (p.take n).statements[i] = p.statements[i] := by
  simp [take]

theorem LabelsDistinct.take (distinct : p.LabelsDistinct) (n : Nat) :
    (p.take n).LabelsDistinct := by
  refine List.Nodup.sublist (List.Sublist.filterMap _ ?_) distinct
  rw [Program.take, Array.toList_extract]
  exact List.Sublist.trans (List.take_sublist ..) (List.drop_sublist ..)

end Syntax.Program

/-- The check before a run passes exactly if the labels are distinct and new. -/
theorem duplicateLabel?_eq_none_iff {seen : List String} {statements : List Stmt} :
    duplicateLabel? seen statements = none ↔
      (labelsOf statements).Nodup ∧ ∀ label ∈ labelsOf statements, label ∉ seen := by
  fun_induction duplicateLabel? seen statements with
  | case1 => simp [labelsOf] -- no label at the first statement
  | case2 seen s rest unlabelled ih => simpa [labelsOf, unlabelled] using ih
  -- the label stood before, which neither side allows
  | case3 seen s rest name labelled old => simp [labelsOf, labelled, old]
  | case4 seen s rest name labelled new ih => -- a label that is new, and must not come again
    have first : labelsOf (s :: rest) = name :: labelsOf rest := List.filterMap_cons_some labelled
    rw [ih, first]
    simp only [List.nodup_cons, List.mem_cons, not_or, forall_eq_or_imp]
    constructor
    · rintro ⟨nodup, later⟩
      have once : name ∉ labelsOf rest := fun again => (later name again).1 rfl
      exact ⟨⟨once, nodup⟩, new, fun label mem => (later label mem).2⟩
    · rintro ⟨⟨once, nodup⟩, -, later⟩
      refine ⟨nodup, fun label mem => ⟨?_, later label mem⟩⟩
      rintro rfl
      exact once mem

theorem Syntax.Program.LabelsDistinct.duplicateLabel?_eq_none {p : Program}
    (distinct : p.LabelsDistinct) : duplicateLabel? [] p.statements.toList = none :=
  duplicateLabel?_eq_none_iff.mpr ⟨distinct, fun _ _ => List.not_mem_nil⟩

theorem Syntax.Program.LabelsDistinct.run_eq {p : Program} (distinct : p.LabelsDistinct)
    (options : RunOptions) (canvas : Canvas) :
    p.run options canvas = (State.start p canvas).run options := by
  rw [Program.run, distinct.duplicateLabel?_eq_none]

/-! ## Counters

A counter is raised from its own value, so two lists of counters that agree somewhere agree there
after both were raised at the same place, or neither can be raised.
-/

namespace Visits

variable {m n i : Nat} {v v' : Visits m} {w : Visits n}

/-- A counter is raised in both lists of counters or in none, if it stands the same in both. -/
theorem raise?_eq_none_of_eq {lt : i < m} {lt' : i < n} (same : w[i] = v[i])
    (full : v.raise? i lt = none) : w.raise? i lt' = none := by
  unfold raise? at full ⊢
  rw [same]
  split at full
  · cases full
  · next atLimit => rw [if_neg atLimit]

theorem exists_raise?_of_eq {lt : i < m} (lt' : i < n) (same : w[i] = v[i])
    (raised : v.raise? i lt = some v') :
    ∃ w', w.raise? i lt' = some w' ∧
      ∀ j (_ : j < m) (_ : j < n), w[j] = v[j] → w'[j] = v'[j] := by
  unfold raise? at raised ⊢
  rw [same]
  split at raised
  · next fits =>
    cases raised
    rw [if_pos fits]
    refine ⟨_, rfl, fun j _ _ kept => ?_⟩
    by_cases here : i = j
    · subst here
      rw [Vector.getElem_set_self, Vector.getElem_set_self]
    · rw [Vector.getElem_set_ne _ _ here, Vector.getElem_set_ne _ _ here, kept]
  · cases raised

end Visits

namespace State

variable {p : Program} {n : Nat} {options : RunOptions} {canvas : Canvas}

/-! ## Jumps

What a label means in the two programs. The label of a jump may stand at a statement that was cut
off, and this is the only way in which the two can come apart.
-/

/-- A label of the first statements stands at the same statement of the whole program. -/
theorem target?_of_take {label : String} {i : Nat} (found : target? (p.take n) label = some i) :
    target? p label = some i := by
  obtain ⟨cut, labelled, first⟩ := target?_eq_some_iff.mp found
  have whole := Program.lt_of_lt_take cut
  rw [Program.getElem_take cut whole] at labelled
  refine target?_eq_some_iff.mpr ⟨whole, labelled, fun j lt => ?_⟩
  have earlier := first j lt
  have cut' := Nat.lt_trans lt cut
  have whole' := Nat.lt_trans lt whole
  rw [Array.getElem?_eq_getElem cut', Program.getElem_take cut' whole'] at earlier
  rw [Array.getElem?_eq_getElem whole']
  exact earlier

/-- A jump does the same in the whole program, unless its label was cut off. -/
theorem jump_of_take {m : Machine} {pc : Nat} {label : String} {condition : Expr}
    {r : Except Fault Nat} (jumps : jump (p.take n) options m pc label condition = r)
    (defined : r ≠ .error (.undefinedLabel label)) : jump p options m pc label condition = r := by
  subst jumps
  unfold jump at defined ⊢
  cases evaluated : m.eval options.resolver condition with
  | error fault => rfl
  | ok v =>
    rw [evaluated] at defined
    match v with
    | .number _ | .string _ | .boolean false => rfl
    | .boolean true => -- only now is the label looked up
      cases found : target? (p.take n) label with
      | none =>
        simp only [bind, Except.bind, found] at defined
        exact absurd rfl defined
      | some i => simp only [bind, Except.bind, target?_of_take found]

/-! ## Both in step

The simulation. The state of the whole program is taken apart, so that its machine, program counter
and steps are those of the first statements, and only the counters are compared.
-/

/-- A state of the whole program agrees with a state of its first statements. -/
structure Extends (s : State (p.take n)) (t : State p) : Prop where
  machine_eq : t.machine = s.machine
  pc_eq : t.pc = s.pc
  steps_eq : t.steps = s.steps
  visits_eq : ∀ i (_ : i < (p.take n).statements.size) (_ : i < p.statements.size),
    t.visits[i] = s.visits[i]

variable {s s' : State (p.take n)} {t : State p} {why : Stop} {trace : List Nat}

theorem extends_start (p : Program) (n : Nat) (canvas : Canvas) :
    Extends (start (p.take n) canvas) (start p canvas) := by
  refine ⟨rfl, rfl, rfl, fun i _ _ => ?_⟩
  simp only [start, Vector.getElem_replicate]

/-- A step of the first statements is one of the whole program. -/
theorem Extends.step (agrees : Extends s t) (h : Step options s s') :
    ∃ t', Step options t t' ∧ Extends s' t' := by
  -- the two states differ in their counters alone
  obtain ⟨m, pc, visits, steps⟩ := t
  obtain ⟨rfl, rfl, rfl, same⟩ := agrees
  have whole := Program.lt_of_lt_take h.pc_lt
  have stmt := Program.getElem_take h.pc_lt whole
  cases h with
  | assign _ action evaluated =>
    rw [stmt] at action
    exact ⟨_, .assign whole action evaluated, rfl, rfl, rfl, same⟩
  | label _ action =>
    rw [stmt] at action
    exact ⟨_, .label whole action, rfl, rfl, rfl, same⟩
  | jump here action raised allowed lands =>
    rw [stmt] at action
    obtain ⟨visits', raised', kept⟩ :=
      Visits.exists_raise?_of_eq whole (same s.pc here whole) raised
    -- the counter that is compared with the limit is the same
    have counted := kept s.pc here whole (same s.pc here whole)
    rw [← counted] at allowed
    refine ⟨_, .jump whole action raised' allowed (jump_of_take lands nofun), rfl, rfl, rfl, ?_⟩
    exact fun i cut lt => kept i cut lt (same i cut lt)
  | call _ action called =>
    rw [stmt] at action
    exact ⟨_, .call whole action called, rfl, rfl, rfl, same⟩

/-- What stops the first statements stops the whole program, unless it is a label that was cut
off. -/
theorem Extends.halts (agrees : Extends s t) (h : Halts options s why canvas)
    (defined : ∀ e label, why = .fault e → e.fault ≠ .undefinedLabel label) :
    Halts options t why canvas := by
  obtain ⟨m, pc, visits, steps⟩ := t
  obtain ⟨rfl, rfl, rfl, same⟩ := agrees
  have whole := Program.lt_of_lt_take h.pc_lt
  have stmt := Program.getElem_take h.pc_lt whole
  -- each way to halt is one of the larger program, with a label not found ruled out
  cases h with
  | assign _ action evaluated =>
    rw [stmt] at action ⊢
    exact .assign whole action evaluated
  | counter here action full =>
    rw [stmt] at action
    exact .counter whole action (Visits.raise?_eq_none_of_eq (same s.pc here whole) full)
  | limit here action raised passed =>
    rw [stmt] at action ⊢
    obtain ⟨visits', raised', kept⟩ :=
      Visits.exists_raise?_of_eq whole (same s.pc here whole) raised
    have counted := kept s.pc here whole (same s.pc here whole)
    rw [← counted] at passed
    exact .limit whole action raised' passed
  | @jump label _ _ fault here action raised allowed fails =>
    rw [stmt] at action ⊢
    obtain ⟨visits', raised', kept⟩ :=
      Visits.exists_raise?_of_eq whole (same s.pc here whole) raised
    have counted := kept s.pc here whole (same s.pc here whole)
    rw [← counted] at allowed
    have found : (.error fault : Except Fault Nat) ≠ .error (.undefinedLabel label) := by
      intro missing
      exact defined _ label rfl (Except.error.inj missing)
    exact .jump whole action raised' allowed (jump_of_take fails found)
  | call _ action called =>
    rw [stmt] at action ⊢
    exact .call whole action called

theorem Extends.passes (agrees : Extends s t) (h : Passes options s trace s') :
    ∃ t', Passes options t trace t' ∧ Extends s' t' := by
  induction h generalizing t with
  | here => exact ⟨t, .here, agrees⟩
  | next step _ ih =>
    obtain ⟨t', step', agrees'⟩ := agrees.step step
    obtain ⟨u, passes, ends⟩ := ih agrees'
    rw [← agrees.pc_eq]
    exact ⟨u, .next step' passes, ends⟩

/-! ## Runs

Along a run the first statements are simulated by the whole program up to their end, where it goes
on by itself, or up to the fault, where it stops as well.
-/

theorem Step.pc_le_size {s t : State p} (h : Step options s t) : t.pc ≤ p.statements.size := by
  have here := h.pc_lt
  obtain on | ⟨_, _, _, _, found⟩ := h.pc_eq
  · omega
  · obtain ⟨lt, -⟩ := target?_eq_some_iff.mp found
    omega

theorem Reaches.pc_le_size {s : State p} (reaches : Reaches options (start p canvas) s) :
    s.pc ≤ p.statements.size :=
  reaches.keeps (Nat.zero_le _) fun _ step => step.pc_le_size

/-- The first statements of a program whose labels are distinct, run alone. If they come to their
end, the whole program carries out the same statements first, which leave it behind them with the
same machine, and goes on from there. If they fault, over anything but a label that is missing, the
whole program carries out the same statements and faults likewise: with the same fault at the same
place, and with the same canvas. -/
theorem prefix_run_faithful {p : Program} (distinct : p.LabelsDistinct) {n : Nat}
    (le : n ≤ p.statements.size) (options : RunOptions) (canvas : Canvas) :
    (∀ report, ((p.take n).run options canvas).result = .ok report →
      ∃ trace, (p.take n).Executes options canvas trace ((p.take n).run options canvas) ∧
        trace.length = report.steps ∧
        ∃ (s : State (p.take n)) (t : State p),
          Passes options (start (p.take n) canvas) trace s ∧ report = s.report ∧
          ((p.take n).run options canvas).canvas = s.machine.canvas ∧
          Passes options (start p canvas) trace t ∧ t.pc = n ∧ t.machine = s.machine ∧
          ∃ later, Execution options t later (p.run options canvas) ∧
            p.Executes options canvas (trace ++ later) (p.run options canvas)) ∧
    ∀ e, ((p.take n).run options canvas).result = .error (.fault e) →
      (∀ label, e.fault ≠ .undefinedLabel label) →
      p.run options canvas = (p.take n).run options canvas ∧
        ∃ trace, (p.take n).Executes options canvas trace ((p.take n).run options canvas) ∧
          p.Executes options canvas trace (p.run options canvas) := by
  have none := distinct.duplicateLabel?_eq_none
  have none' := (distinct.take n).duplicateLabel?_eq_none
  have ran := distinct.run_eq options canvas
  have ran' := (distinct.take n).run_eq options canvas
  obtain ⟨trace, execution⟩ := execution_run options (start (p.take n) canvas)
  rw [← ran'] at execution
  have executes := Program.Executes.start none' execution
  have agrees := extends_start p n canvas
  constructor
  · intro report ended
    refine ⟨trace, executes, (executes.steps_eq ended).symm, ?_⟩
    rw [Outcome.eq_of_result ended] at execution
    obtain ⟨s, passes, behind, told, left⟩ := execution.passes_ends
    obtain ⟨t, passes', agrees'⟩ := agrees.passes passes
    -- the run of the first statements ends right behind the last of them
    have at_end : t.pc = n := by
      have upTo := passes.reaches.pc_le_size
      rw [Program.size_take le] at behind upTo
      rw [agrees'.pc_eq]
      omega
    obtain ⟨later, rest⟩ := execution_run options t
    have whole := passes'.execution rest
    have same : t.run options = p.run options canvas := by
      rw [ran]
      exact whole.eq_run
    rw [same] at rest whole
    exact ⟨s, t, passes, told, left, passes', at_end, agrees'.machine_eq, later, rest,
      .start none whole⟩
  · intro e stopped defined
    rw [Outcome.eq_of_result stopped] at execution
    obtain ⟨before, s, rfl, passes, halts⟩ := execution.passes_halts
    obtain ⟨t, passes', agrees'⟩ := agrees.passes passes
    -- the fault is not that of a label that is missing
    have halts' := agrees'.halts halts fun e' label same => by
      cases same
      exact defined label
    have whole := passes'.execution (.halt halts')
    have same : p.run options canvas = (p.take n).run options canvas := by
      rw [ran, ← whole.eq_run, Outcome.eq_of_result stopped]
    refine ⟨same, _, executes, ?_⟩
    rw [same, Outcome.eq_of_result stopped, ← agrees'.pc_eq]
    exact .start none whole

/-- A loop that is left at once, a jump whose condition is a number, and its label. -/
def leavesLoop : Program :=
  ⟨#[⟨.assign "k" (.number 3 default), default⟩, ⟨.label "again", default⟩,
    ⟨.goTo "again" (.binary .lt (.var "k" default) (.number 3 default) default), default⟩,
    ⟨.goTo "end" (.var "k" default), default⟩, ⟨.label "end", default⟩]⟩

theorem prefix_run_faithful_leavesLoop :
    leavesLoop.LabelsDistinct ∧ 3 ≤ leavesLoop.statements.size ∧ 4 ≤ leavesLoop.statements.size ∧
      ((leavesLoop.take 3).run ⟨none, 9⟩ (Canvas.filled 1 .white)).result =
        .ok ⟨none, .fresh, 3⟩ ∧
      (∃ (trace : List Nat) (t : State leavesLoop), trace.length = 3 ∧
        Passes ⟨none, 9⟩ (start leavesLoop (Canvas.filled 1 .white)) trace t ∧ t.pc = 3) ∧
      ((leavesLoop.take 4).run ⟨none, 9⟩ (Canvas.filled 1 .white)).result =
        .error (.fault ⟨.typeMismatch .condition .boolean .number, default⟩) ∧
      leavesLoop.run ⟨none, 9⟩ (Canvas.filled 1 .white) =
        (leavesLoop.take 4).run ⟨none, 9⟩ (Canvas.filled 1 .white) := by
  have distinct : leavesLoop.LabelsDistinct := by decide
  have three : 3 ≤ leavesLoop.statements.size := by decide
  have four : 4 ≤ leavesLoop.statements.size := by decide
  have ended : ((leavesLoop.take 3).run ⟨none, 9⟩ (Canvas.filled 1 .white)).result =
      .ok ⟨none, .fresh, 3⟩ := by
    have execution : Execution ⟨none, 9⟩ (start (leavesLoop.take 3) (Canvas.filled 1 .white))
        [0, 1, 2] ⟨.ok ⟨none, .fresh, 3⟩, Canvas.filled 1 .white⟩ := by
      refine .next (.assign (by decide) rfl rfl) ?_
      refine .next (.label (by decide) rfl) ?_
      refine .next (.jump (by decide) rfl rfl (by decide) rfl) ?_
      exact .done (by decide)
    rw [(distinct.take 3).run_eq, ← execution.eq_run]
  have stopped : ((leavesLoop.take 4).run ⟨none, 9⟩ (Canvas.filled 1 .white)).result =
      .error (.fault ⟨.typeMismatch .condition .boolean .number, default⟩) := by
    have execution : Execution ⟨none, 9⟩ (start (leavesLoop.take 4) (Canvas.filled 1 .white))
        [0, 1, 2, 3] ⟨.error (.fault ⟨.typeMismatch .condition .boolean .number, default⟩),
          Canvas.filled 1 .white⟩ := by
      refine .next (.assign (by decide) rfl rfl) ?_
      refine .next (.label (by decide) rfl) ?_
      refine .next (.jump (by decide) rfl rfl (by decide) rfl) ?_
      exact .halt (.jump (by decide) rfl rfl (by decide) rfl)
    rw [(distinct.take 4).run_eq, ← execution.eq_run]
  obtain ⟨trace, -, steps, -, t, -, -, -, passes, behind, -⟩ :=
    (prefix_run_faithful distinct three ⟨none, 9⟩ (Canvas.filled 1 .white)).1 _ ended
  have defined (label : String) :
      Fault.typeMismatch .condition .boolean .number ≠ .undefinedLabel label := by
    intro same
    cases same
  obtain ⟨same, -⟩ :=
    (prefix_run_faithful distinct four ⟨none, 9⟩ (Canvas.filled 1 .white)).2 _ stopped defined
  exact ⟨distinct, three, four, ended, ⟨trace, t, steps, passes, behind⟩, stopped, same⟩

end State
end BrushScript
