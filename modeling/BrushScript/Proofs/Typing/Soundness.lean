import BrushScript.Proofs.Machine.Effect
import BrushScript.Proofs.Machine.Step
import BrushScript.Proofs.Typing.Evaluation
import BrushScript.Proofs.Typing.Program

/-!
# Soundness of type checking

A run of a program without problems meets no fault of types: values have the types that the checker
computed, calls have their arguments, and jumps find their labels. Every statement keeps each
variable at its final type (`agrees_step`), and `accepted_run_sound` is what that means for whole
runs, with jumps in either direction.

The invariant speaks of the final types, not of those that the checker knew in front of a statement.
A jump may lead to a statement in front of which the checker knew less or more than what the run has
done, but what it knew there it still knew at the end. So every statement is typed under one and the
same scope of types, and a step has no need to know where the run comes from.
-/

namespace BrushScript

open Syntax Typing

/-! ## Calls

The arguments of a call are typed, so they are evaluated without a fault of types and fit the
parameters. What a command or a query does with them raises no such fault either.
-/

namespace Machine

variable {m : Machine} {types : Scope TypeName}

theorem call_respects (resolver : Option ColorResolver) {b : Builtin} {args : List Expr}
    (count : args.length = b.arity)
    (each : ∀ pair ∈ b.params.zip args, HasType types pair.2 pair.1.type)
    (agrees : Agrees types m.scope) :
    m.EffectMeets (fun f => f.isTyping = false) (m.call resolver b args) := by
  have evaluated : Respects (fun _ => True) (m.evalArguments resolver b args) := by
    apply respects_evalArguments count
    intro pair mem
    exact respects_eval resolver (each pair mem) agrees
  have position : Raises (·.isTyping = false) m.position :=
    m.raises_position.allow (Fault.among_apart (by decide))
  exact call_within evaluated (Fault.among_apart (by decide)) position fun _ _ => rfl

end Machine

/-! ## Statements

A jump finds its label, because the checker looked for it among all labels of the program. An
assignment gives its variable a value of its final type; no other statement touches a variable.
-/

namespace State

variable {p : Program} {options : RunOptions} {s t : State p}

theorem respects_jump (options : RunOptions) {types : Scope TypeName} {m : Machine}
    {label : String} {condition : Expr} (pc : Nat) (target : label ∈ labelsOf p.statements.toList)
    (typed : HasType types condition .boolean) (agrees : Agrees types m.scope) :
    Respects (fun _ => True) (jump p options m pc label condition) := by
  obtain ⟨place, found⟩ := isSome_target? target
  refine (Machine.respects_eval options.resolver typed agrees).bind fun v typed => ?_
  match v, typed with
  | .boolean false, _ => trivial
  | .boolean true, _ =>
    simp only [found]
    trivial

/-- A statement under the final types keeps every variable at its type. -/
theorem agrees_step (free : p.CommandFree) (accepted : analyze p = [])
    (agrees : Agrees (finalTypes p) s.machine.scope) (step : Step options s t) :
    Agrees (finalTypes p) t.machine.scope := by
  have typed := actionTyped_of_analyze free accepted step.pc_lt
  cases step with
  | @assign name value v here action evaluated =>
    rw [action] at typed
    cases typed with
    | assign known typedValue =>
      have result := Machine.respects_eval options.resolver typedValue agrees
      rw [evaluated] at result
      -- the variable that was assigned has its final type, and the others are as before
      intro other w bound
      rw [Scope.get?_set] at bound
      split at bound
      · next same =>
        cases bound
        rw [same, known, show v.type = _ from result]
      · exact agrees other w bound
  | label => exact agrees
  | jump => exact agrees
  | @call b args m here action called =>
    rw [action] at typed
    cases typed with
    | call count each =>
      have kept := (Machine.call_respects options.resolver count each agrees).follows.scope_eq
      rw [called] at kept
      exact kept ▸ agrees

/-- A statement under the final types does not stop the run with a fault of types. -/
theorem Halts.isTyping_eq_false {e : RuntimeError} {canvas : Canvas} (free : p.CommandFree)
    (accepted : analyze p = []) (agrees : Agrees (finalTypes p) s.machine.scope)
    (halts : Halts options s (.fault e) canvas) : e.fault.isTyping = false := by
  have typed := actionTyped_of_analyze free accepted halts.pc_lt
  cases halts with
  | assign _ action evaluated =>
    rw [action] at typed
    cases typed with
    | assign _ typedValue =>
      have result := Machine.respects_eval options.resolver typedValue agrees
      rw [evaluated] at result
      exact result
  | limit => rfl
  | jump _ action _ _ fails =>
    rw [action] at typed
    cases typed with
    | goTo target typedCondition =>
      have lands := respects_jump options s.pc target typedCondition agrees
      rw [fails] at lands
      exact lands
  | call _ action called =>
    rw [action] at typed
    cases typed with
    | call count each =>
      have kept := Machine.call_respects options.resolver count each agrees
      rw [called] at kept
      exact kept.allowed_of_fault rfl

/-! ## Runs -/

theorem agrees_start (p : Program) (canvas : Canvas) (types : Scope TypeName) :
    Agrees types (start p canvas).machine.scope := by
  intro name v bound
  cases bound

/-- In every reachable state the variables have their final types. -/
theorem Reaches.agrees {canvas : Canvas} (free : p.CommandFree) (accepted : analyze p = [])
    (reaches : Reaches options (start p canvas) s) : Agrees (finalTypes p) s.machine.scope := by
  have first := agrees_start p canvas (finalTypes p)
  exact reaches.keeps first fun agrees step => agrees_step free accepted agrees step

/-- In a run of a program that the checker accepts and whose expressions call no command, no fault
of types stops the run, and in every reachable state each variable that is bound holds a value of
the type that the checker found for its first assignment in the text. -/
theorem accepted_run_sound (p : Program) (free : p.CommandFree) (accepted : analyze p = [])
    (options : RunOptions) (canvas : Canvas) :
    (∀ e, (p.run options canvas).result = .error (.fault e) → e.fault.isTyping = false) ∧
    (∀ s, Reaches options (start p canvas) s →
      ∀ name v, s.machine.scope.get? name = some v → Records p name v.type) := by
  constructor
  · intro e stopped
    have distinct := duplicateLabel?_eq_none (List.append_eq_nil_iff.mp accepted).1
    obtain ⟨trace, execution⟩ := execution_run options (start p canvas)
    rw [Program.run, distinct] at stopped
    generalize (start p canvas).run options = outcome at stopped execution
    obtain ⟨result, left⟩ := outcome
    cases stopped
    obtain ⟨s, reaches, halts⟩ := execution.halts
    exact halts.isTyping_eq_false free accepted (reaches.agrees free accepted)
  · intro s reaches name v bound
    have known := reaches.agrees free accepted name v bound
    exact records_of_finalTypes accepted known

/-- A loop that counts down from three. -/
def countdown : Program :=
  ⟨#[⟨.call (.command .spawn) [.number 0 default, .number 0 default], default⟩,
    ⟨.assign "n" (.number 3 default), default⟩,
    ⟨.label "again", default⟩,
    ⟨.assign "n" (.binary .sub (.var "n" default) (.number 1 default) default), default⟩,
    ⟨.goTo "again" (.unary .not (.call (.query .isBrushSize) [.var "n" default] default) default),
      default⟩]⟩

theorem accepted_run_sound_countdown :
    countdown.CommandFree ∧ analyze countdown = [] ∧
      (∀ e, (countdown.run ⟨none, 9⟩ (Canvas.filled 1 .white)).result = .error (.fault e) →
        e.fault.isTyping = false) ∧
      (∀ s, Reaches ⟨none, 9⟩ (start countdown (Canvas.filled 1 .white)) s →
        ∀ name v, s.machine.scope.get? name = some v → Records countdown name v.type) :=
  have free : countdown.CommandFree := by decide
  have accepted : analyze countdown = [] := by decide
  ⟨free, accepted, accepted_run_sound countdown free accepted _ _⟩

end State
end BrushScript
