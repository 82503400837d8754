import BrushScript.Proofs.Machine.Effect
import BrushScript.Proofs.Machine.Step
import BrushScript.Proofs.Paint.Painted

/-!
# Where the colours on the canvas come from

A call that stands as a statement paints in the brush's colour (`Machine.Paints`), or it is a
colour command that obtained a colour, which the brush has from then on (`paints_or_obtains`).
So along a run the brush is clear or has a colour that some colour command before obtained, and
every pixel is as at the start or has such a colour, and not the clear one: `Reaches.caused`.
`run_colors_caused` says what that means for whole runs.

The invariant `Caused` has the brush in it beside the pixels, since a statement that paints does so
in the colour that the brush has got before. `Canvas.Painted` carries it through the run: it says
that every pixel is as before or has a colour with some property, and never the clear one, so a
canvas painted in no colour but the clear one is the canvas before.
-/

namespace BrushScript

open Syntax

/-! ## Calls

All commands but the one for colours are of one kind here: they keep the colour of the brush, and
paint with it or not at all. Faults need no case of their own, for what was painted before one was
painted in the same colour.
-/

namespace Machine

variable {m m' m'' : Machine} {resolver : Option ColorResolver}

/-- The brush keeps its colour, and nothing is painted but in that colour. -/
structure Paints (m m' : Machine) : Prop where
  color_eq : m'.brush.color = m.brush.color
  painted : m.canvas.Painted (· = m.brush.color) m'.canvas

theorem Paints.of_eq (canvas : m'.canvas = m.canvas) (color : m'.brush.color = m.brush.color) :
    m.Paints m' := ⟨color, canvas ▸ .refl ..⟩

theorem Paints.trans (first : m.Paints m') (second : m'.Paints m'') : m.Paints m'' where
  color_eq := second.color_eq.trans first.color_eq
  painted := first.painted.trans (first.color_eq ▸ second.painted)

theorem Paints.of_result {r : Except Fault Machine} (h : Meets (fun _ => True) m.Paints r) :
    m.Paints (m.effectOf r).machine := by
  cases r with
  | ok m' => exact h
  | error => exact .of_eq rfl rfl

theorem paints_drawCells (m : Machine) (q step : Point) (n : Nat) :
    m.Paints (m.drawCells q step n).machine := by
  induction n generalizing m q with
  | zero => exact .of_eq rfl rfl
  | succ n ih =>
    rw [drawCells]
    split
    -- one stamp, and then the rest of the line in the same colour
    · refine Paints.trans ?_ (ih _ _)
      exact ⟨rfl, Paint.painted_stamp ..⟩
    · exact .of_eq rfl rfl

theorem paints_drawLine (m : Machine) (dx dy distance : Int64) :
    m.Paints (m.drawLine dx dy distance).machine := by
  unfold drawLine
  split
  · exact paints_drawCells ..
  · exact .of_eq rfl rfl

theorem paints_drawCircle (m : Machine) (dx dy radius : Int64) :
    Meets (fun _ => True) m.Paints (m.drawCircle dx dy radius) := by
  refine (raises_any (direction .drawCircle dx dy)).bind fun step _ => ?_
  refine (raises_any (positive .drawCircle .radius radius)).bind fun r _ => ?_
  refine (raises_any (m.center .drawCircle step r)).bind fun q _ => ?_
  exact ⟨rfl, Paint.painted_circle ..⟩

theorem paints_drawRectangle (m : Machine) (dx dy distance width height : Int64) :
    Meets (fun _ => True) m.Paints (m.drawRectangle dx dy distance width height) := by
  refine (raises_any (direction .drawRectangle dx dy)).bind fun step _ => ?_
  refine .ite (fun _ => trivial) fun _ => ?_
  refine (raises_any (positive .drawRectangle .width width)).bind fun w _ => ?_
  refine (raises_any (positive .drawRectangle .height height)).bind fun h _ => ?_
  refine (raises_any (m.center .drawRectangle step distance.toInt)).bind fun q _ => ?_
  exact ⟨rfl, Paint.painted_rectangle ..⟩

/-- A command other than that for a colour paints. -/
theorem paints_perform {c : Command} (other : c ≠ .color) (args : Arguments c.params) :
    m.Paints (m.perform resolver c args).machine := by
  cases c with
  | color => exact absurd rfl other
  | spawn | moveTo =>
    exact .of_result (.ite (fun _ => .of_eq rfl rfl) fun _ => trivial)
  | size => exact .of_result (.ite (fun _ => trivial) fun _ => .of_eq rfl rfl)
  | drawLine => exact paints_drawLine ..
  | drawCircle => exact .of_result (paints_drawCircle ..)
  | drawRectangle => exact .of_result (paints_drawRectangle ..)
  | fill => exact .of_result ((raises_any m.position).bind fun q _ => ⟨rfl, Paint.painted_flood ..⟩)

/-- The call is a colour command, and the colour of its name is found. -/
def Obtains (resolver : Option ColorResolver) (m : Machine) (b : Builtin) (args : List Expr)
    (color : Color) : Prop :=
  ∃ name, b = .command .color ∧
    m.evalArguments resolver (.command .color) args = .ok (name, ()) ∧
    resolveColor resolver name = some color

theorem setColor_cases (resolver : Option ColorResolver) (m : Machine) (name : String) :
    (∃ fault, setColor resolver m name = .error fault) ∨
      ∃ color, resolveColor resolver name = some color ∧
        setColor resolver m name = .ok { m with brush := { m.brush with color } } := by
  unfold setColor colorOf
  cases resolveColor resolver name with
  | none => exact .inl ⟨_, rfl⟩
  | some color => exact .inr ⟨color, rfl, rfl⟩

/-- A call paints, or it obtains a colour, which is the brush's from then on. -/
theorem paints_or_obtains (resolver : Option ColorResolver) (m : Machine) (b : Builtin)
    (args : List Expr) :
    m.Paints (m.call resolver b args).machine ∨
      ∃ color, m.Obtains resolver b args color ∧
        m.call resolver b args = ⟨{ m with brush := { m.brush with color } }, none⟩ := by
  unfold call
  split
  · exact .inl (.of_eq rfl rfl)
  · next values evaluated =>
    cases b with
    | query q =>
      refine .inl (.of_result ?_)
      exact (raises_any (m.answer resolver q values)).map fun _ _ => .of_eq rfl rfl
    | command c => -- every command but one paints; that one is looked at with its argument
      by_cases color : c = .color
      · subst color
        obtain ⟨name, ⟨⟩⟩ := values
        change m.Paints (m.effectOf (setColor resolver m name)).machine ∨
          ∃ color, _ ∧ m.effectOf (setColor resolver m name) = _
        rcases setColor_cases resolver m name with ⟨fault, failed⟩ | ⟨color, found, taken⟩
        · rw [failed]
          exact .inl (.of_eq rfl rfl)
        · rw [taken]
          exact .inr ⟨color, ⟨name, rfl, evaluated, found⟩, rfl⟩
      · exact .inl (paints_perform color values)

end Machine

/-! ## Statements

A step paints, or it takes a colour and leaves the canvas alone. A halt can only have painted: a
colour command that halts has found no colour.
-/

namespace State

variable {p : Program} {options : RunOptions} {s t u : State p} {canvas left : Canvas}
  {color : Color} {why : Stop}

/-- The statement under the program counter is a colour command, which obtained a colour. -/
structure TakesColor (options : RunOptions) (s : State p) (color : Color) (t : State p) : Prop where
  step : Step options s t
  obtains : ∃ (here : s.pc < p.statements.size) (b : Builtin) (args : List Expr),
    p.statements[s.pc].action = .call b args ∧ s.machine.Obtains options.resolver b args color
  brush : t.machine.brush.color = color
  canvas_eq : t.machine.canvas = s.machine.canvas

theorem Step.paints_or (h : Step options s t) :
    s.machine.Paints t.machine ∨ ∃ color, s.TakesColor options color t := by
  cases h with
  | assign | label | jump => exact .inl (.of_eq rfl rfl)
  | @call b args m here action called =>
    rcases s.machine.paints_or_obtains options.resolver b args with paints | ⟨color, obtains, same⟩
    · rw [called] at paints
      exact .inl paints
    · cases called.symm.trans same
      exact .inr ⟨color, .call here action called, ⟨here, b, args, action, obtains⟩, rfl, rfl⟩

theorem Halts.painted (h : Halts options s why left) :
    s.machine.canvas.Painted (· = s.machine.brush.color) left := by
  cases h with
  | assign | counter | limit | jump => exact .refl ..
  | @call b args m fault here action called =>
    rcases s.machine.paints_or_obtains options.resolver b args with paints | ⟨_, _, same⟩
    · rw [called] at paints
      exact paints.painted
    · cases called.symm.trans same

/-- With a clear brush, no statement changes the canvas. -/
theorem Step.canvas_eq_of_clear (h : Step options s t) (clears : s.machine.brush.color = .clear) :
    t.machine.canvas = s.machine.canvas := by
  rcases h.paints_or with paints | ⟨color, takes⟩
  · exact paints.painted.eq_of_clear fun _ same => same.trans clears
  · exact takes.canvas_eq

theorem Halts.canvas_eq_of_clear (h : Halts options s why left)
    (clears : s.machine.brush.color = .clear) : left = s.machine.canvas :=
  h.painted.eq_of_clear fun _ same => same.trans clears

/-! ## Runs

A colour that was taken on the way to a state was taken on the way to every later one, so the set of
colours that pixels may have grows along the run.
-/

/-- On the way to the state, a colour command obtained the colour. -/
def Taken (options : RunOptions) (canvas : Canvas) (s : State p) (color : Color) : Prop :=
  ∃ u v, Reaches options (start p canvas) u ∧ u.TakesColor options color v ∧ Reaches options v s

theorem Taken.step (taken : Taken options canvas s color) (h : Step options s t) :
    Taken options canvas t color := by
  obtain ⟨u, v, before, takes, after⟩ := taken
  exact ⟨u, v, before, takes, .tail after h⟩

/-- The brush is clear or has a colour that was obtained on the way, and so has every pixel that is
not as at the start. -/
structure Caused (options : RunOptions) (canvas : Canvas) (s : State p) : Prop where
  brush : s.machine.brush.color = .clear ∨ Taken options canvas s s.machine.brush.color
  painted : canvas.Painted (Taken options canvas s) s.machine.canvas

/-- What is painted in the brush's colour has a cause. -/
theorem Caused.paint (caused : Caused options canvas s)
    (paints : s.machine.canvas.Painted (· = s.machine.brush.color) left) :
    canvas.Painted (Taken options canvas s) left := by
  refine caused.painted.trans (paints.mono ?_)
  rintro color visible rfl
  rcases caused.brush with clears | taken
  · exact absurd clears visible
  · exact taken

theorem Reaches.caused (reaches : Reaches options (start p canvas) s) :
    Caused options canvas s := by
  induction reaches with
  | refl => exact ⟨.inl rfl, .refl ..⟩
  | @tail s t before step ih =>
    have later {color : Color} (taken : Taken options canvas s color) :
        Taken options canvas t color := taken.step step
    -- the step painted with the colour of the brush, or took a colour
    rcases step.paints_or with paints | ⟨color, takes⟩
    · refine ⟨?_, (ih.paint paints.painted).mono fun _ _ => later⟩
      rw [paints.color_eq]
      exact ih.brush.imp_right later
    · have taken : Taken options canvas t color := ⟨s, t, before, takes, .refl⟩
      refine ⟨.inr ?_, ?_⟩
      · rw [takes.brush]
        exact taken
      · rw [takes.canvas_eq]
        exact ih.painted.mono fun _ _ => later

/-- Until a colour command obtains a colour, the brush is clear and the canvas as at the start. -/
theorem Caused.untouched (caused : Caused options canvas s)
    (none : ∀ color, ¬ Taken options canvas s color) :
    s.machine.brush.color = .clear ∧ s.machine.canvas = canvas :=
  ⟨caused.brush.resolve_right (none _),
    caused.painted.eq_of_clear fun color taken => absurd taken (none color)⟩

end State

/-- In the run of a program, which starts if its labels are distinct, a colour command obtains the
colour. -/
def Syntax.Program.Takes (p : Program) (options : RunOptions) (canvas : Canvas) (color : Color) :
    Prop :=
  duplicateLabel? [] p.statements.toList = none ∧ ∃ s t,
    State.Reaches options (.start p canvas) s ∧ s.TakesColor options color t

theorem painted_run (p : Program) (options : RunOptions) (canvas : Canvas) :
    canvas.Painted (p.Takes options canvas) (p.run options canvas).canvas := by
  unfold Program.run
  split
  · exact .refl ..
  · next distinct =>
    obtain ⟨trace, execution⟩ := State.execution_run options (.start p canvas)
    obtain ⟨t, reaches, left⟩ := execution.leaves
    have caused : canvas.Painted (State.Taken options canvas t)
        ((State.start p canvas).run options).canvas := by
      -- the run has its end behind the last statement or at the one that halted it
      rcases left with same | ⟨why, halts⟩
      · rw [same]
        exact reaches.caused.painted
      · exact reaches.caused.paint halts.painted
    apply caused.mono
    rintro color - ⟨u, v, before, takes, -⟩
    exact ⟨distinct, u, v, before, takes⟩

/-- After a run, whether it got to its end or not, every pixel is as before or has a colour other
than the clear one that a colour command of the run obtained, and without such a command the canvas
is as before. This is so all along the run, where the command has gone before. While the brush is
clear, no statement changes the canvas, not even one that faults. -/
theorem run_colors_caused (p : Program) (options : RunOptions) (canvas : Canvas) :
    (∀ q, (p.run options canvas).canvas.pixel? q = canvas.pixel? q ∨
        ∃ color, p.Takes options canvas color ∧ color ≠ .clear ∧
          (p.run options canvas).canvas.pixel? q = some color) ∧
      ((∀ color, ¬ p.Takes options canvas color) → (p.run options canvas).canvas = canvas) ∧
      ∀ s, State.Reaches options (.start p canvas) s →
        (∀ q, s.machine.canvas.pixel? q = canvas.pixel? q ∨
          ∃ color, State.Taken options canvas s color ∧ color ≠ .clear ∧
            s.machine.canvas.pixel? q = some color) ∧
        ((∀ color, ¬ State.Taken options canvas s color) →
          s.machine.brush.color = .clear ∧ s.machine.canvas = canvas) ∧
        (s.machine.brush.color = .clear →
          (∀ t, State.Step options s t → t.machine.canvas = s.machine.canvas) ∧
            ∀ why left, State.Halts options s why left → left = s.machine.canvas) := by
  have painted := painted_run p options canvas
  refine ⟨painted.pixel, ?_, fun s reaches => ⟨?_, ?_, ?_⟩⟩
  · intro none
    exact painted.eq_of_clear fun color takes => absurd takes (none color)
  · exact reaches.caused.painted.pixel
  · exact reaches.caused.untouched
  · intro clears
    exact ⟨fun t step => step.canvas_eq_of_clear clears,
      fun why left halts => halts.canvas_eq_of_clear clears⟩

end BrushScript
