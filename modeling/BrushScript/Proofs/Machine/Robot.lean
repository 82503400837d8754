import BrushScript.Proofs.Machine.Effect
import BrushScript.Proofs.Machine.Step

/-!
# Where the robot stands

Two invariants of runs, both of them from what a command keeps (`Machine.Follows`). Whatever the
program, the canvas keeps its side, the robot stands on one of its cells or nowhere yet, and the
brush has a proper size: `Machine.Sound`. And a robot that stands somewhere does so for the rest of
the run.

Only calls touch the robot, the canvas or the size of the brush, so at every other statement both
invariants are kept because nothing happens. The second one has no theorem about runs here: where
the robot comes to stand depends on the program, and programs that open with a `Spawn` are the ones
of which something can be said.
-/

namespace BrushScript

open Syntax

/-! ## Machines

The invariant on machines alone. `Sound.of_follows` is its step, and speaks of no command in
particular: whatever follows a sound machine is sound.
-/

namespace Machine

variable {m m' : Machine} {side : Nat}

/-- What is true of the machine in every run on a canvas of the given side. -/
structure Sound (side : Nat) (m : Machine) : Prop where
  side_eq : m.canvas.side = side
  on_canvas : ∀ q, m.pointer = some q → m.canvas.Contains q
  brush : m.brush.Proper

theorem sound_start (canvas : Canvas) : (start canvas).Sound canvas.side where
  side_eq := rfl
  on_canvas := nofun
  brush := Brush.proper_fresh

theorem Follows.contains_iff (h : m.Follows m') (q : Point) :
    m'.canvas.Contains q ↔ m.canvas.Contains q :=
  Canvas.contains_congr h.side_eq

theorem Sound.of_follows (sound : m.Sound side) (h : m.Follows m') : m'.Sound side where
  side_eq := h.side_eq.trans sound.side_eq
  on_canvas := by
    intro q stands
    rw [h.contains_iff]
    rcases h.pointer with same | ⟨q', moved, on⟩
    · rw [same] at stands
      exact sound.on_canvas q stands
    · cases moved.symm.trans stands
      exact on
  brush := by
    rcases h.brush with same | proper
    · obtain ⟨odd, positive, fits⟩ := sound.brush
      exact ⟨same ▸ odd, same ▸ positive, same ▸ fits⟩
    · exact proper

theorem Follows.isSome_pointer (h : m.Follows m') (placed : m.pointer.isSome = true) :
    m'.pointer.isSome = true := by
  rcases h.pointer with same | ⟨q, moved, -⟩
  · rw [same]
    exact placed
  · rw [moved]
    rfl

end Machine

/-! ## Runs -/

namespace State

variable {p : Program} {options : RunOptions} {s t : State p} {canvas : Canvas}

theorem Step.sound {side : Nat} (h : Step options s t) (sound : s.machine.Sound side) :
    t.machine.Sound side := by
  cases h with
  | assign => exact ⟨sound.side_eq, sound.on_canvas, sound.brush⟩
  | label | jump => exact sound
  | call _ _ called => exact sound.of_follows (Machine.follows_of_call called)

theorem Step.isSome_pointer (h : Step options s t) (placed : s.machine.pointer.isSome = true) :
    t.machine.pointer.isSome = true := by
  cases h with
  | assign | label | jump => exact placed
  | call _ _ called => exact (Machine.follows_of_call called).isSome_pointer placed

theorem Reaches.sound (reaches : Reaches options (start p canvas) s) :
    s.machine.Sound canvas.side :=
  reaches.keeps (Machine.sound_start canvas) fun sound step => step.sound sound

end State
end BrushScript
