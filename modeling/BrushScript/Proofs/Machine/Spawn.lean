import BrushScript.Proofs.Machine.Atomic

/-!
# Programs that open with a `Spawn`

If the first statement puts the robot on the canvas, it is carried out once: it has no label, so no
jump leads to it. Behind it the robot stands somewhere in every state (`Reaches.opened`), so that
statement is the only one that can stop the run for want of a robot
(`Execution.eq_of_notSpawned`).

The fault for want of a robot comes from one place, the lookup of the robot's position. Everything
that may raise it is given the position's faults as a parameter, so once there is a robot that fault
is ruled out for queries, expressions, jumps and calls by the same lemmas that bound their faults in
general (`spawned_eval`, `spawned_call`).
-/

namespace BrushScript

open Syntax

/-! ## Machines

What the first statement does, and what a machine can raise when it has a robot.
-/

namespace Machine

variable {m m' : Machine}

theorem isSome_pointer_of_place {x y : Int64} (placed : m.place .spawn x y = .ok m') :
    m'.pointer.isSome = true := by
  unfold place at placed
  dsimp only at placed
  split at placed
  · cases placed
    rfl
  · cases placed

theorem isSome_pointer_of_spawn {resolver : Option ColorResolver} {args : List Expr}
    (called : m.call resolver (.command .spawn) args = ⟨m', none⟩) :
    m'.pointer.isSome = true := by
  unfold call at called
  split at called
  · cases called
  · next values _ =>
    obtain ⟨x, y, _⟩ := values
    change m.effectOf (m.place .spawn x y) = _ at called
    cases result : m.place .spawn x y with
    | ok placed =>
      rw [result] at called
      cases called
      exact isSome_pointer_of_place result
    | error fault =>
      rw [result] at called
      cases called

/-! ### A robot that stands somewhere -/

theorem spawned_position (placed : m.pointer.isSome = true) :
    Raises (· ≠ .notSpawned) m.position := by
  obtain ⟨q, stands⟩ := Option.isSome_iff_exists.mp placed
  rw [position, stands]
  trivial

theorem spawned_eval (resolver : Option ColorResolver) (placed : m.pointer.isSome = true)
    (e : Expr) : Raises (· ≠ .notSpawned) (m.eval resolver e) :=
  raises_eval_within (Fault.ne_of_among rfl) (spawned_position placed) (fun _ => nofun)
    fun _ _ _ => nofun

theorem spawned_call (resolver : Option ColorResolver) (placed : m.pointer.isSome = true)
    (b : Builtin) (args : List Expr) :
    m.EffectMeets (· ≠ .notSpawned) (m.call resolver b args) := by
  have evaluated : Raises (· ≠ .notSpawned) (m.evalArguments resolver b args) :=
    raises_evalArguments (Fault.ne_of_among rfl) fun arg _ =>
      spawned_eval resolver placed arg
  exact call_within evaluated (Fault.ne_of_among rfl) (spawned_position placed)
    fun _ _ => nofun

end Machine

/-! ## Statements

A jump leads to a statement with its label. The first statement is a call, which has no label, and
every other statement goes on to the next, so the program counter never comes back to it.
-/

/-- The first statement puts the robot on the canvas. -/
def Syntax.Program.OpensWithSpawn (p : Program) : Prop :=
  ∃ (here : 0 < p.statements.size) (args : List Expr),
    p.statements[0].action = .call (.command .spawn) args

namespace State

variable {p : Program} {options : RunOptions} {s t : State p} {e : RuntimeError}
  {canvas left : Canvas}

theorem Halts.ne_notSpawned (h : Halts options s (.fault e) left)
    (placed : s.machine.pointer.isSome = true) : e.fault ≠ .notSpawned := by
  cases h with
  | @assign _ value _ _ _ evaluated =>
    have raised := s.machine.spawned_eval options.resolver placed value
    rw [evaluated] at raised
    exact raised
  | limit => exact nofun
  | @jump label condition _ _ _ _ _ _ fails =>
    have evaluated := s.machine.spawned_eval options.resolver placed condition
    have raised : Raises (· ≠ .notSpawned)
        (State.jump p options s.machine s.pc label condition) :=
      jump_within evaluated (Fault.ne_of_among rfl) nofun
    rw [fails] at raised
    exact raised
  | @call b args m fault _ _ called =>
    have kept := s.machine.spawned_call options.resolver placed b args
    rw [called] at kept
    exact kept.allowed_of_fault rfl

/-- No label stands at a `Spawn`, so no jump leads to it. -/
theorem Step.pc_pos (opens : p.OpensWithSpawn) (h : Step options s t) : 0 < t.pc := by
  obtain on | ⟨_, label, _, _, found⟩ := h.pc_eq
  · omega
  · obtain ⟨here, labelled, -⟩ := target?_eq_some_iff.mp found
    obtain ⟨_, args, spawns⟩ := opens
    -- the label would stand at the first statement
    apply Nat.pos_of_ne_zero
    intro first
    simp only [first, Stmt.label?, spawns] at labelled
    cases labelled

theorem Step.isSome_pointer_of_first (opens : p.OpensWithSpawn) (h : Step options s t)
    (first : s.pc = 0) : t.machine.pointer.isSome = true := by
  obtain ⟨_, args, spawns⟩ := opens
  have here := h.pc_lt
  have action : p.statements[s.pc].action = .call (.command .spawn) args := by
    simp only [first, spawns]
  exact Machine.isSome_pointer_of_spawn (h.called action)

/-! ## Runs

In each state after the first step the program counter is behind the first statement and the robot
stands somewhere. The first half makes the list of visited statements begin with the only visit to
it, the second half rules the fault out.
-/

/-- Once the first statement has been carried out, the run is behind it and the robot stands
somewhere. -/
theorem Reaches.opened (opens : p.OpensWithSpawn) (reaches : Reaches options (start p canvas) s) :
    s = start p canvas ∨ 0 < s.pc ∧ s.machine.pointer.isSome = true := by
  induction reaches with
  | refl => exact .inl rfl
  | tail _ step ih =>
    refine .inr ⟨step.pc_pos opens, ?_⟩
    rcases ih with rfl | ⟨-, placed⟩
    · exact step.isSome_pointer_of_first opens rfl
    · exact step.isSome_pointer placed

variable {trace : List Nat} {o : Outcome}

theorem Execution.zero_notMem (opens : p.OpensWithSpawn) (h : Execution options s trace o)
    (behind : 0 < s.pc) : 0 ∉ trace := by
  induction h with
  | done => exact List.not_mem_nil
  | halt =>
    rw [List.mem_singleton]
    exact Nat.ne_of_lt behind
  | next step _ ih =>
    rw [List.mem_cons, not_or]
    exact ⟨Nat.ne_of_lt behind, ih (step.pc_pos opens)⟩

theorem Execution.opening (opens : p.OpensWithSpawn)
    (h : Execution options (start p canvas) trace o) :
    ∃ later, trace = 0 :: later ∧ 0 ∉ later := by
  cases h with
  | done ended => exact absurd opens.1 ended
  | halt => exact ⟨[], rfl, List.not_mem_nil⟩
  | @next _ _ later _ step execution =>
    exact ⟨later, rfl, execution.zero_notMem opens (step.pc_pos opens)⟩

/-- A run that opens with a `Spawn` stops for want of a robot at that statement or not at all. -/
theorem Execution.eq_of_notSpawned (opens : p.OpensWithSpawn)
    (h : Execution options (start p canvas) trace ⟨.error (.fault e), left⟩)
    (unplaced : e.fault = .notSpawned) : trace = [0] ∧ left = canvas := by
  cases h with
  | halt halts => -- the first statement itself stopped the run
    refine ⟨rfl, ?_⟩
    rcases halts.canvas_eq_or with same | ⟨q, off⟩
    · exact same
    · cases off.symm.trans unplaced
  | next step execution => -- some later one did, where there is a robot
    obtain ⟨u, reaches, halts⟩ := execution.halts
    have placed : u.machine.pointer.isSome = true :=
      reaches.keeps (step.isSome_pointer_of_first opens rfl) fun placed step =>
        step.isSome_pointer placed
    exact absurd unplaced (halts.ne_notSpawned placed)

end State
end BrushScript
