import BrushScript.Machine.Command

/-!
# Running a program

The program counter goes through the statements; a jump whose condition holds sets it to the
statement of a label. Every jump statement counts how often it was reached, whether or not it
jumped, and stops the run when the limit is passed. So a run ends: a step either makes some
counter's room smaller or moves the program counter on, and `State.next_decreases` says so.

The counters have 32 bits. With the greatest possible limit a counter can be full before the limit
is passed; the run then ends as `counterFull`. That is no fault of the script, has no message, and
whoever started the run has to end there as well.
-/

namespace BrushScript

open Syntax

/-- What a run is given beside its program: colour names, and how often a jump may be reached. -/
structure RunOptions where
  resolver : Option ColorResolver
  maxGoToVisits : UInt32

/-- How often a jump may be reached if nothing else is said. -/
def defaultMaxGoToVisits : UInt32 := 10000

/-- What a run that got to its end tells. -/
structure Report where
  pointer : Option Point
  brush : Brush
  steps : Nat
  deriving DecidableEq, Repr

/-- How a run can stop before its end. -/
inductive Stop where
  | fault (e : RuntimeError)
  | counterFull
  deriving DecidableEq, Repr

/-! ## Visit counters -/

/-- One counter for each statement. -/
abbrev Visits (n : Nat) := Vector UInt32 n

namespace Visits

/-- How often the counters of a list can still be raised. -/
def roomOf : List UInt32 → Nat
  | [] => 0
  | k :: rest => (0xffffffff - k.toNat) + roomOf rest

/-- How often the counters can still be raised. -/
def room {n : Nat} (v : Visits n) : Nat := roomOf v.toList

/-- The counters with one raised, unless it is full. -/
def raise? {n : Nat} (v : Visits n) (i : Nat) (h : i < n) : Option (Visits n) :=
  if v[i].toNat + 1 < 0x100000000 then some (v.set i (v[i] + 1)) else none

theorem roomOf_set_lt (l : List UInt32) (i : Nat) (h : i < l.length) (k : UInt32)
    (lt : 0xffffffff - k.toNat < 0xffffffff - l[i].toNat) : roomOf (l.set i k) < roomOf l := by
  induction l generalizing i with
  | nil => simp at h
  | cons b rest ih =>
    cases i with
    | zero =>
      rw [List.getElem_cons_zero] at lt
      simp only [List.set_cons_zero, roomOf]
      omega
    | succ i =>
      have := ih i (by simpa using h) (by simpa using lt)
      simp only [List.set_cons_succ, roomOf]
      omega

theorem room_raise? {n : Nat} {v w : Visits n} {i : Nat} {h : i < n}
    (raised : v.raise? i h = some w) : w.room < v.room := by
  unfold raise? at raised
  split at raised
  · next fits =>
    cases raised
    unfold room
    rw [Vector.toList_set]
    apply roomOf_set_lt _ _ (by simpa using h)
    simp only [Vector.getElem_toList, UInt32.toNat_add]
    have : (1 : UInt32).toNat = 1 := rfl
    omega
  · cases raised

end Visits

/-! ## States and steps -/

/-- A program with a run of it in progress: the machine, the program counter, the visits of each
statement, and the number of statements carried out. -/
structure State (p : Program) where
  machine : Machine
  pc : Nat
  visits : Visits p.statements.size
  steps : Nat

/-- What a step leads to. -/
inductive Transition (p : Program) where
  | next (s : State p)
  | stop (why : Stop) (canvas : Canvas)

namespace State

variable {p : Program}

/-- The state before the first statement. -/
def start (p : Program) (canvas : Canvas) : State p :=
  ⟨.start canvas, 0, Vector.replicate _ 0, 0⟩

/-- The state with the program counter moved and the step counted. -/
def goTo (s : State p) (pc : Nat) : State p := { s with pc, steps := s.steps + 1 }

/-- The statement of a label. -/
def target? (p : Program) (label : String) : Option Nat :=
  p.statements.findIdx? fun s => s.label? == some label

/-- Where a jump statement leads when its condition has been looked at. -/
def jump (p : Program) (options : RunOptions) (m : Machine) (pc : Nat) (label : String)
    (condition : Expr) : Except Fault Nat := do
  match ← m.eval options.resolver condition with
  | .boolean false => return pc + 1
  | .boolean true =>
    match target? p label with
    | some target => return target
    | none => .error (.undefinedLabel label)
  | other => .error (.typeMismatch .condition .boolean other.type)

/-- Carry out the statement under the program counter. -/
def step (options : RunOptions) (s : State p) (h : s.pc < p.statements.size) : Transition p :=
  let stmt := p.statements[s.pc]
  let halt (fault : Fault) (canvas : Canvas) := Transition.stop (.fault ⟨fault, stmt.span⟩) canvas
  match stmt.action with
  | .assign name value =>
    match s.machine.eval options.resolver value with
    | .error fault => halt fault s.machine.canvas
    | .ok v =>
      .next { s with
        machine := { s.machine with scope := s.machine.scope.set name v }
        pc := s.pc + 1
        steps := s.steps + 1 }
  | .label _ => .next (s.goTo (s.pc + 1))
  | .goTo label condition =>
    match s.visits.raise? s.pc h with
    | none => .stop .counterFull s.machine.canvas
    | some visits =>
      if options.maxGoToVisits < visits[s.pc] then
        halt (.goToLimit label options.maxGoToVisits) s.machine.canvas
      else
        match jump p options s.machine s.pc label condition with
        | .error fault => halt fault s.machine.canvas
        | .ok pc => .next { s with visits, pc, steps := s.steps + 1 }
  | .call b args =>
    match s.machine.call options.resolver b args with
    | ⟨m, some fault⟩ => halt fault m.canvas
    | ⟨m, none⟩ => .next { s with machine := m, pc := s.pc + 1, steps := s.steps + 1 }

/-- A step leaves less room in the counters, or the same room and fewer statements ahead. -/
theorem next_decreases {options : RunOptions} {s t : State p} {h : s.pc < p.statements.size}
    (step_eq : s.step options h = .next t) :
    Prod.Lex (· < ·) (· < ·) (t.visits.room, p.statements.size - t.pc)
      (s.visits.room, p.statements.size - s.pc) := by
  have ahead : p.statements.size - (s.pc + 1) < p.statements.size - s.pc := by omega
  unfold step at step_eq
  dsimp only at step_eq
  split at step_eq
  · split at step_eq
    · cases step_eq
    · cases step_eq
      exact Prod.Lex.right _ ahead
  · cases step_eq
    exact Prod.Lex.right _ ahead
  · split at step_eq
    · cases step_eq
    · next raised =>
      split at step_eq
      · cases step_eq
      · split at step_eq
        · cases step_eq
        · cases step_eq
          exact Prod.Lex.left _ _ (Visits.room_raise? raised)
  · split at step_eq
    · cases step_eq
    · cases step_eq
      exact Prod.Lex.right _ ahead

/-- What a run came to: its report or why it stopped, and the canvas it left. -/
structure Outcome where
  result : Except Stop Report
  canvas : Canvas

/-- What a finished run tells. -/
def report (s : State p) : Report := ⟨s.machine.pointer, s.machine.brush, s.steps⟩

/-- Go on until the statements are used up or the run stops. -/
def run (options : RunOptions) (s : State p) : Outcome :=
  if h : s.pc < p.statements.size then
    match _moved : s.step options h with
    | .next t => run options t
    | .stop why canvas => ⟨.error why, canvas⟩
  else ⟨.ok s.report, s.machine.canvas⟩
termination_by (s.visits.room, p.statements.size - s.pc)
decreasing_by exact next_decreases _moved

end State

/-! ## Programs -/

/-- The first label that stands a second time, and where. -/
def duplicateLabel? (seen : List String) : List Stmt → Option RuntimeError
  | [] => none
  | s :: rest =>
    match s.label? with
    | none => duplicateLabel? seen rest
    | some name =>
      if name ∈ seen then some ⟨.duplicateLabel name, s.span⟩
      else duplicateLabel? (name :: seen) rest

/-- Run a program on a canvas. A program whose labels are not distinct does not start. -/
def Syntax.Program.run (p : Program) (options : RunOptions) (canvas : Canvas) : State.Outcome :=
  match duplicateLabel? [] p.statements.toList with
  | some e => ⟨.error (.fault e), canvas⟩
  | none => (State.start p canvas).run options

end BrushScript
