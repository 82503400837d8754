import BrushScript.Proofs.Machine.Prefix
import BrushScript.Proofs.Syntax.Relocation

/-!
# A program runs in the same way wherever it stands

Neither evaluating an expression nor carrying out a statement looks at a place; a fault only tells
the one of its statement. So if the places of a program are moved, it runs through the same machines
to the same report, or to the same fault at the place moved (`run_relocate`).

The program with its places moved is another program, with states of its own. `State.Matches` pairs
them with the states here, and a step or a halt here has its match there; the counters are compared
place by place, with the lemmas for a program and its first statements.
-/

namespace BrushScript

open Syntax

variable {f : Span → Span}

/-! ## Expressions

The value of an expression and its fault do not depend on places: a fault gets its place from the
statement only.
-/

namespace Machine

variable {resolver : Option ColorResolver} {m : Machine}

theorem evalAll_relocate {args : List Expr}
    (each : ∀ arg ∈ args, eval resolver m (arg.relocate f) = eval resolver m arg) :
    evalAll resolver m (args.map (Expr.relocate f)) = evalAll resolver m args := by
  induction args with
  | nil => rfl
  | cons arg args ih =>
    obtain ⟨here, later⟩ := List.forall_mem_cons.mp each
    rw [List.map_cons, evalAll, evalAll, here, ih later]

/-- An expression has the same value, or the same fault, wherever it stands. -/
theorem eval_relocate (e : Expr) : eval resolver m (e.relocate f) = eval resolver m e := by
  induction e using Expr.induction with
  | number | string | boolean | var => rfl
  | unary op operand span ih => rw [Expr.relocate, eval, eval, ih]
  | binary op left right span ihl ihr => rw [Expr.relocate, eval, eval, ihl, ihr]
  | call b args span ih =>
    rw [Expr.relocate, Expr.relocateAll_eq_map]
    cases b with
    | command c => rfl
    | query q => rw [eval, eval, List.length_map, evalAll_relocate ih]

theorem call_relocate (b : Builtin) (args : List Expr) :
    m.call resolver b (args.map (Expr.relocate f)) = m.call resolver b args := by
  have evaluated : m.evalArguments resolver b (args.map (Expr.relocate f)) =
      m.evalArguments resolver b args := by
    rw [evalArguments, evalArguments, List.length_map,
      evalAll_relocate fun arg _ => eval_relocate arg]
  rw [call, evaluated]
  rfl

end Machine

/-! ## Statements

A statement that is moved is of the same kind, with its expressions moved. What the rules of a step
ask for is the same here and there, up to rewriting by the lemmas on expressions.
-/

/-- The fault at another place. -/
def RuntimeError.relocate (f : Span → Span) (e : RuntimeError) : RuntimeError := ⟨e.fault, f e.span⟩

/-- The end of a run, with a fault at another place. -/
def Stop.relocate (f : Span → Span) : Stop → Stop
  | .fault e => .fault (e.relocate f)
  | .counterFull => .counterFull

namespace State

/-- What a run came to, with a fault at another place. -/
def Outcome.relocate (f : Span → Span) (o : Outcome) : Outcome :=
  ⟨o.result.mapError (Stop.relocate f), o.canvas⟩

variable {p : Program} {options : RunOptions} {s s' : State p} {why : Stop} {canvas : Canvas}

theorem target?_relocate (label : String) : target? (p.relocate f) label = target? p label := by
  unfold target? Program.relocate
  rw [Array.findIdx?_map]
  congr 1
  funext s
  exact congrArg (· == some label) (s.label?_relocate f)

theorem jump_relocate (m : Machine) (pc : Nat) (label : String) (condition : Expr) :
    jump (p.relocate f) options m pc label (condition.relocate f) =
      jump p options m pc label condition := by
  rw [jump, jump, Machine.eval_relocate, target?_relocate]

/-- The same state in runs of a program here and there. -/
structure Matches (f : Span → Span) (s : State p) (t : State (p.relocate f)) : Prop where
  machine_eq : t.machine = s.machine
  pc_eq : t.pc = s.pc
  steps_eq : t.steps = s.steps
  visits_eq : ∀ i (_ : i < p.statements.size) (_ : i < (p.relocate f).statements.size),
    t.visits[i] = s.visits[i]

theorem matches_start (f : Span → Span) (p : Program) (canvas : Canvas) :
    Matches f (start p canvas) (start (p.relocate f) canvas) := by
  refine ⟨rfl, rfl, rfl, fun i _ _ => ?_⟩
  simp only [start, Vector.getElem_replicate]

namespace Matches

variable {t : State (p.relocate f)}

/-- The statement that is up next there, and what it does. -/
theorem action_eq {action : Action} (here : s.pc < p.statements.size)
    (moved : s.pc < (p.relocate f).statements.size) (same : p.statements[s.pc].action = action) :
    (p.relocate f).statements[s.pc].action = action.relocate f := by
  rw [Program.getElem_relocate moved here, Stmt.relocate, same]

theorem span_eq (here : s.pc < p.statements.size)
    (moved : s.pc < (p.relocate f).statements.size) :
    f p.statements[s.pc].span = (p.relocate f).statements[s.pc].span := by
  rw [Program.getElem_relocate moved here]
  rfl

/-- A statement that is carried out here is carried out there. -/
theorem step (same : Matches f s t) (h : Step options s s') :
    ∃ t', Step options t t' ∧ Matches f s' t' := by
  -- the two states differ in their counters alone
  obtain ⟨m, pc, visits, steps⟩ := t
  obtain ⟨rfl, rfl, rfl, counted⟩ := same
  have moved : s.pc < (p.relocate f).statements.size := by
    rw [Program.size_relocate]
    exact h.pc_lt
  cases h with
  | assign here action evaluated =>
    rw [← Machine.eval_relocate (f := f)] at evaluated
    exact ⟨_, .assign moved (action_eq here moved action) evaluated, rfl, rfl, rfl, counted⟩
  | label here action =>
    exact ⟨_, .label moved (action_eq here moved action), rfl, rfl, rfl, counted⟩
  | jump here action raised allowed lands =>
    obtain ⟨visits', raised', kept⟩ :=
      Visits.exists_raise?_of_eq moved (counted s.pc here moved) raised
    rw [← kept s.pc here moved (counted s.pc here moved)] at allowed
    rw [← jump_relocate (f := f)] at lands
    refine ⟨_, .jump moved (action_eq here moved action) raised' allowed lands, rfl, rfl, rfl, ?_⟩
    exact fun i lt lt' => kept i lt lt' (counted i lt lt')
  | call here action called =>
    rw [← Machine.call_relocate (f := f)] at called
    exact ⟨_, .call moved (action_eq here moved action) called, rfl, rfl, rfl, counted⟩

/-- What stops the run here stops it there. -/
theorem halts (same : Matches f s t) (h : Halts options s why canvas) :
    Halts options t (why.relocate f) canvas := by
  obtain ⟨m, pc, visits, steps⟩ := t
  obtain ⟨rfl, rfl, rfl, counted⟩ := same
  have moved : s.pc < (p.relocate f).statements.size := by
    rw [Program.size_relocate]
    exact h.pc_lt
  cases h with
  | assign here action evaluated =>
    rw [← Machine.eval_relocate (f := f)] at evaluated
    rw [Stop.relocate, RuntimeError.relocate, span_eq here moved]
    exact .assign moved (action_eq here moved action) evaluated
  | counter here action full =>
    exact .counter moved (action_eq here moved action)
      (Visits.raise?_eq_none_of_eq (counted s.pc here moved) full)
  | limit here action raised passed =>
    obtain ⟨visits', raised', kept⟩ :=
      Visits.exists_raise?_of_eq moved (counted s.pc here moved) raised
    rw [← kept s.pc here moved (counted s.pc here moved)] at passed
    rw [Stop.relocate, RuntimeError.relocate, span_eq here moved]
    exact .limit moved (action_eq here moved action) raised' passed
  | jump here action raised allowed fails =>
    obtain ⟨visits', raised', kept⟩ :=
      Visits.exists_raise?_of_eq moved (counted s.pc here moved) raised
    rw [← kept s.pc here moved (counted s.pc here moved)] at allowed
    rw [← jump_relocate (f := f)] at fails
    rw [Stop.relocate, RuntimeError.relocate, span_eq here moved]
    exact .jump moved (action_eq here moved action) raised' allowed fails
  | call here action called =>
    rw [← Machine.call_relocate (f := f)] at called
    rw [Stop.relocate, RuntimeError.relocate, span_eq here moved]
    exact .call moved (action_eq here moved action) called

/-- From the same state on, the run there goes through the same statements to the same end. -/
theorem execution (same : Matches f s t) {trace : List Nat} {o : Outcome}
    (h : Execution options s trace o) : Execution options t trace (o.relocate f) := by
  induction h generalizing t with
  -- both reports tell of the same robot, brush and steps
  | @done s ended =>
    have report : t.report = s.report := by
      rw [State.report, same.machine_eq, same.steps_eq]
      rfl
    show Execution options t [] ⟨.ok _, _⟩
    rw [← report, ← same.machine_eq]
    refine .done ?_
    rw [same.pc_eq, Program.size_relocate]
    exact ended
  | halt halts =>
    rw [← same.pc_eq]
    exact .halt (same.halts halts)
  | next step _ ih =>
    obtain ⟨t', step', same'⟩ := same.step step
    rw [← same.pc_eq]
    exact .next step' (ih same')

end Matches

end State

/-! ## Programs

Whether labels are distinct does not depend on places either, only where the fault over them stands.
-/

theorem duplicateLabel?_relocate (seen : List String) (statements : List Stmt) :
    duplicateLabel? seen (statements.map (Stmt.relocate f)) =
      (duplicateLabel? seen statements).map (·.relocate f) := by
  induction statements generalizing seen with
  | nil => rfl
  | cons s rest ih =>
    rw [List.map_cons, duplicateLabel?, duplicateLabel?, Stmt.label?_relocate]
    cases s.label? with
    | none => exact ih seen
    | some name =>
      dsimp only
      rw [ih]
      split <;> rfl

/-- A program runs in the same way wherever it stands. -/
theorem run_relocate (f : Span → Span) (p : Program) (options : RunOptions) (canvas : Canvas) :
    (p.relocate f).run options canvas = (p.run options canvas).relocate f := by
  have labels := duplicateLabel?_relocate (f := f) [] p.statements.toList
  rw [← Array.toList_map] at labels
  unfold Program.run
  rw [show (p.relocate f).statements = p.statements.map (Stmt.relocate f) from rfl, labels]
  cases duplicateLabel? [] p.statements.toList with
  | some e => rfl
  | none =>
    obtain ⟨trace, execution⟩ := State.execution_run options (State.start p canvas)
    exact ((State.matches_start f p canvas).execution execution).eq_run.symm

end BrushScript
