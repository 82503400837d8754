import BrushScript.Proofs.Machine.Colors
import BrushScript.Proofs.Paint.Border
import BrushScript.Proofs.Paint.Circle
import BrushScript.Proofs.Paint.Region
import BrushScript.Proofs.Paint.Walk

/-!
# The brush that does not paint

With the clear colour no statement changes the canvas (`State.spares_of_clear`). It is the only
such colour: opacity zero alone does not make a brush that does not paint. Whatever other colour a
theme brings under some name, each of the drawing commands paints with it in some run, so that a
colour can be painted by a command exactly if the command draws and the colour is not the clear one
(`neverPaints_iff_clear`). The runs that show it are those of `Ink.program`.

For the one direction, what a statement does to the canvas is already known: with a clear brush
nothing, and a command that does not draw leaves the canvas alone whatever the brush is
(`Machine.canvas_perform`). For the other direction a run is needed for every colour, so it has to
be written with the colour as a variable. The canvas of that run is filled with a colour far from
the given one, the robot takes the colour from a theme and gives the command, and in each case the
pixel under the robot shows it afterwards, by the theorems on stamps, circles, rectangles and fills.
-/

namespace BrushScript

open Syntax

/-! ## Drawing commands

Which commands can paint at all, and what it means that a statement does not. A statement that halts
the run is included: a line that leaves the canvas has painted before.
-/

/-- The commands that paint. -/
def Syntax.Command.drawing : List Command := [.drawLine, .drawCircle, .drawRectangle, .fill]

namespace Machine

/-- A command that does not draw leaves the canvas as it is. -/
theorem canvas_perform {resolver : Option ColorResolver} {m : Machine} {c : Command}
    (other : c ∉ Command.drawing) (args : Arguments c.params) :
    (m.perform resolver c args).machine.canvas = m.canvas := by
  have result {r : Except Fault Machine}
      (h : Meets (fun _ => True) (fun m' => m'.canvas = m.canvas) r) :
      (m.effectOf r).machine.canvas = m.canvas := by
    cases r with
    | ok m' => exact h
    | error => rfl
  cases c with
  | spawn | moveTo => exact result (.ite (fun _ => rfl) fun _ => trivial)
  | color => exact result ((raises_any (colorOf resolver args.1)).bind fun _ _ => rfl)
  | size => exact result (.ite (fun _ => trivial) fun _ => rfl)
  | drawLine | drawCircle | drawRectangle | fill => exact absurd (by decide) other

theorem canvas_call (resolver : Option ColorResolver) (m : Machine) {c : Command}
    (other : c ∉ Command.drawing) (args : List Expr) :
    (m.call resolver (.command c) args).machine.canvas = m.canvas := by
  unfold call
  split
  · rfl
  · exact canvas_perform other _

end Machine

namespace State

variable {p : Program} {options : RunOptions} {s : State p}

/-- The statement under the program counter leaves the canvas as it is, also if it stops the run. -/
structure Spares (options : RunOptions) (s : State p) : Prop where
  step : ∀ t, Step options s t → t.machine.canvas = s.machine.canvas
  halt : ∀ why left, Halts options s why left → left = s.machine.canvas

/-- With the clear colour, every statement leaves the canvas as it is. -/
theorem spares_of_clear (clears : s.machine.brush.color = .clear) : s.Spares options :=
  ⟨fun _ step => step.canvas_eq_of_clear clears, fun _ _ halts => halts.canvas_eq_of_clear clears⟩

theorem Halts.left_eq {why : Stop} {left : Canvas} (h : Halts options s why left) {b : Builtin}
    {args : List Expr} {here : s.pc < p.statements.size}
    (action : p.statements[s.pc].action = .call b args) :
    left = (s.machine.call options.resolver b args).machine.canvas := by
  cases h with
  | assign _ other => cases other.symm.trans action
  | counter _ other => cases other.symm.trans action
  | limit _ other => cases other.symm.trans action
  | jump _ other => cases other.symm.trans action
  | call _ same called =>
    cases same.symm.trans action
    rw [called]

theorem spares_of_call {c : Command} {args : List Expr} (here : s.pc < p.statements.size)
    (action : p.statements[s.pc].action = .call (.command c) args)
    (other : c ∉ Command.drawing) : s.Spares options where
  step t step := by
    rw [← Machine.canvas_call options.resolver s.machine other args, step.called action]
  halt why left halts := by
    rw [halts.left_eq action, Machine.canvas_call _ _ other args]

end State

/-- In some run, with some theme, the command changes the canvas while the brush has the colour. -/
def CanPaint (c : Command) (color : Color) : Prop :=
  ∃ (p : Program) (theme : Theme) (limit : UInt32) (canvas : Canvas) (s : State p),
    State.Reaches ⟨theme.resolver, limit⟩ (.start p canvas) s ∧ s.machine.brush.color = color ∧
      (∃ (here : s.pc < p.statements.size) (args : List Expr),
        p.statements[s.pc].action = .call (.command c) args) ∧
      ¬ s.Spares ⟨theme.resolver, limit⟩

/-! ## Calls with literals

The statements of the runs below have numbers for arguments. Such a call comes to the command with
these numbers, so that no proof about a command has to look at expressions.
-/

namespace Machine

variable {resolver : Option ColorResolver} {m : Machine} {c : Command} {ns : List Int64}

/-- Literals as arguments. -/
def literals (ns : List Int64) : List Expr := ns.map fun n => .number n default

theorem evalAll_literals (ns : List Int64) :
    m.evalAll resolver (literals ns) = .ok (ns.map .number) := by
  induction ns with
  | nil => simp only [literals, List.map_nil, evalAll]
  | cons n ns ih =>
    rw [literals, List.map_cons, evalAll, eval]
    change (do let vs ← m.evalAll resolver (literals ns); pure (Value.number n :: vs)) = _
    rw [ih]
    rfl

/-- A call with literals is the command with these numbers. -/
theorem call_literals {args : Arguments c.params} (count : ns.length = (Builtin.command c).arity)
    (typed : Arguments.ofValues (.command c) c.params (ns.map .number) = .ok args) :
    m.call resolver (.command c) (literals ns) = m.perform resolver c args := by
  have evaluated : m.evalArguments resolver (.command c) (literals ns) = .ok args := by
    rw [evalArguments, literals, List.length_map, if_pos count, ← literals, evalAll_literals]
    exact typed
  rw [call, evaluated]

end Machine

/-! ## A run for each colour

The run takes the colour of the name `ink` from a theme which has no other, on a canvas of two rows.
Two rows are enough for a circle of radius one to have its middle on the canvas beside the robot.
-/

/-- A colour that is far from the given one. -/
def Color.opposite (color : Color) : Color :=
  .opaqueOf (if color.red.toNat < 128 then 255 else 0) 0 0

theorem Color.approx_opposite (color : Color) : color.approx color.opposite = false := by
  have far : channelsClose color.red color.opposite.red = false := by
    have small := color.red.toNat_lt
    have full : (255 : UInt8).toNat = 255 := rfl
    have none : (0 : UInt8).toNat = 0 := rfl
    rw [channelsClose, decide_eq_false_iff_not]
    dsimp only [opposite, opaqueOf]
    -- the red channel alone is more than a hundred away
    split <;> omega
  rw [approx, far]
  rfl

namespace Ink

open Machine (literals call_literals)

theorem two_lt : 2 < 0x100000000 := by decide

/-- A canvas of two rows on which the colour shows. -/
def canvas (color : Color) : Canvas := .filled 2 color.opposite two_lt

/-- The robot in the corner. -/
def spawned (color : Color) : Machine := ⟨canvas color, some ⟨0, 0⟩, .fresh, .empty⟩

/-- The robot in the corner, with the colour on its brush. -/
def machine (color : Color) : Machine := ⟨canvas color, some ⟨0, 0⟩, ⟨color, 1⟩, .empty⟩

/-- Put the robot in the corner, take the colour of a name, and give a command. -/
def program (c : Command) (ns : List Int64) : Program :=
  ⟨#[⟨.call (.command .spawn) (literals [0, 0]), default⟩,
    ⟨.call (.command .color) [.string "ink" default], default⟩,
    ⟨.call (.command c) (literals ns), default⟩]⟩

/-- A theme of one colour. -/
def theme (color : Color) : Theme := ⟨"ink", [("ink", color)]⟩

/-- The theme and no jumps. -/
def options (color : Color) : RunOptions := ⟨(theme color).resolver, 0⟩

/-- The state before the command. -/
def state (c : Command) (ns : List Int64) (color : Color) : State (program c ns) :=
  ⟨machine color, 2, Vector.replicate _ 0, 2⟩

variable {c : Command} {ns : List Int64} {m : Machine} {color : Color}

theorem contains_canvas (color : Color) {q : Point} (on : 0 ≤ q.x ∧ q.x < 2 ∧ 0 ≤ q.y ∧ q.y < 2) :
    (canvas color).Contains q := on

theorem contains_corner (color : Color) : (canvas color).Contains ⟨0, 0⟩ :=
  contains_canvas color (by decide)

theorem pixel?_canvas (color : Color) : (canvas color).pixel? ⟨0, 0⟩ = some color.opposite :=
  Canvas.pixel?_filled (contains_corner color)

theorem call_spawn (color : Color) :
    (Machine.start (canvas color)).call (options color).resolver (.command .spawn)
      (literals [0, 0]) = ⟨spawned color, none⟩ := by
  rw [call_literals rfl rfl]
  rfl

theorem resolveColor_theme (color : Color) :
    resolveColor (options color).resolver "ink" = some color := by
  have trimmed : Text.trim "ink" = "ink" := by decide +kernel
  have found : (theme color).resolver "ink" = some color := by
    rw [Theme.resolver, theme, ColorTable.resolve?, List.find?_cons, Text.caselessEq_refl]
    rfl
  rw [resolveColor, trimmed, if_neg (by decide), options, Option.bind_some, found]
  rfl

theorem call_color (color : Color) :
    (spawned color).call (options color).resolver (.command .color) [.string "ink" default] =
      ⟨machine color, none⟩ := by
  have evaluated (m : Machine) (resolver : Option ColorResolver) :
      m.evalArguments resolver (.command .color) [.string "ink" default] = .ok ("ink", ()) := by
    -- the argument is a literal text
    simp only [Machine.evalArguments, Machine.evalAll, Machine.eval]
    rfl
  rw [Machine.call, evaluated]
  dsimp only [Machine.perform]
  rw [Machine.setColor, Machine.colorOf, resolveColor_theme]
  rfl

theorem reaches_state (c : Command) (ns : List Int64) (color : Color) :
    State.Reaches (options color) (.start (program c ns) (canvas color)) (state c ns color) := by
  -- the two statements before the command, each a step
  have first : State.Step (options color) (.start (program c ns) (canvas color))
      ⟨spawned color, 1, Vector.replicate _ 0, 1⟩ :=
    .call (Nat.lt_of_sub_eq_succ rfl) rfl (call_spawn color)
  have second : State.Step (options color) ⟨spawned color, 1, Vector.replicate _ 0, 1⟩
      (state c ns color) := .call (Nat.lt_of_sub_eq_succ rfl) rfl (call_color color)
  exact .tail (.tail .refl first) second

/-- If the command paints the corner, its statement changes the canvas. -/
theorem not_spares
    (called : (machine color).call (options color).resolver (.command c) (literals ns) = ⟨m, none⟩)
    (painted : m.canvas.pixel? ⟨0, 0⟩ = some color) :
    ¬ (state c ns color).Spares (options color) := by
  intro spares
  have drawn : State.Step (options color) (state c ns color) ⟨m, 3, Vector.replicate _ 0, 3⟩ :=
    .call (Nat.lt_of_sub_eq_succ rfl) rfl called
  have same : m.canvas = canvas color := spares.step _ drawn
  -- the corner would have a colour and one far from it
  rw [same, pixel?_canvas, Option.some.injEq] at painted
  have far := color.approx_opposite
  rw [painted, Color.approx_refl] at far
  cases far

theorem canPaint
    (called : (machine color).call (options color).resolver (.command c) (literals ns) = ⟨m, none⟩)
    (painted : m.canvas.pixel? ⟨0, 0⟩ = some color) : CanPaint c color :=
  ⟨program c ns, theme color, 0, canvas color, state c ns color, reaches_state c ns color, rfl,
    ⟨Nat.lt_of_sub_eq_succ rfl, _, rfl⟩, not_spares called painted⟩

/-! ### Each command -/

theorem call_drawLine (color : Color) :
    (machine color).call (options color).resolver (.command .drawLine) (literals [1, 0, 1]) =
      ⟨{ machine color with
        canvas := Paint.stamp (canvas color) ⟨0, 0⟩ (1 : Int64).toInt color }, none⟩ := by
  rw [call_literals rfl rfl]
  rfl

theorem call_drawCircle (color : Color) :
    (machine color).call (options color).resolver (.command .drawCircle) (literals [1, 0, 1]) =
      ⟨{ machine color with
        canvas := Paint.circle (canvas color) ⟨1, 0⟩ (1 : Int64).toInt (1 : Int64).toInt color
        pointer := some ⟨1, 0⟩ }, none⟩ := by
  rw [call_literals rfl rfl]
  rfl

theorem call_drawRectangle (color : Color) :
    (machine color).call (options color).resolver (.command .drawRectangle)
        (literals [0, 0, 0, 1, 1]) =
      ⟨{ machine color with
        canvas := Paint.rectangle (canvas color) ⟨0, 0⟩ (1 : Int64).toInt (1 : Int64).toInt
          (1 : Int64).toInt color }, none⟩ := by
  rw [call_literals rfl rfl]
  rfl

theorem call_fill (color : Color) :
    (machine color).call (options color).resolver (.command .fill) (literals []) =
      ⟨{ machine color with canvas := (Paint.flood (canvas color) ⟨0, 0⟩ color).1 }, none⟩ := by
  rw [call_literals rfl rfl]
  rfl

section

variable (visible : color ≠ .clear)

include visible

theorem pixel?_stamp :
    (Paint.stamp (canvas color) ⟨0, 0⟩ (1 : Int64).toInt color).pixel? ⟨0, 0⟩ = some color :=
  (Paint.pixel?_stamp visible ..).trans (if_pos ⟨contains_corner color, by decide⟩)

/-- The corner lies on the circle around its neighbour. -/
theorem pixel?_circle :
    (Paint.circle (canvas color) ⟨1, 0⟩ (1 : Int64).toInt (1 : Int64).toInt color).pixel? ⟨0, 0⟩ =
      some color := by
  have inside : (canvas color).Contains ⟨1, 0⟩ := contains_canvas color (by decide)
  -- the leftmost cell of the outline
  have left : (⟨-1, 0⟩ : Point) ∈ Paint.circleOutline (1 : Int64).toInt :=
    (Paint.mem_outline_midpoint rfl).mpr ⟨by decide, (Paint.midpointColumn_zero Nat.one_pos).symm⟩
  exact (Paint.pixel?_circle visible inside (1 : Int64) (1 : Int64) ⟨0, 0⟩).trans
    (if_pos ⟨contains_corner color, Paint.exists_mem_cellsAround.mpr ⟨_, left, by decide⟩⟩)

theorem pixel?_rectangle :
    (Paint.rectangle (canvas color) ⟨0, 0⟩ (1 : Int64).toInt (1 : Int64).toInt (1 : Int64).toInt
      color).pixel? ⟨0, 0⟩ = some color := by
  have on := contains_corner color
  exact (Paint.pixel?_rectangle visible on (1 : Int64) (by decide) (by decide) ⟨0, 0⟩).trans
    (if_pos ⟨on, ⟨0, 0⟩, by decide, by decide⟩)

theorem pixel?_flood : (Paint.flood (canvas color) ⟨0, 0⟩ color).1.pixel? ⟨0, 0⟩ = some color :=
  (Paint.pixel?_flood (pixel?_canvas color) visible color.approx_opposite _).trans
    (if_pos (Paint.region_seed (pixel?_canvas color)))

theorem canPaint_of_drawing (draws : c ∈ Command.drawing) : CanPaint c color := by
  simp only [Command.drawing, List.mem_cons, List.not_mem_nil, or_false] at draws
  rcases draws with rfl | rfl | rfl | rfl
  · exact canPaint (call_drawLine color) (pixel?_stamp visible)
  · exact canPaint (call_drawCircle color) (pixel?_circle visible)
  · exact canPaint (call_drawRectangle color) (pixel?_rectangle visible)
  · exact canPaint (call_fill color) (pixel?_flood visible)

end

end Ink

/-! ## Which colours do not paint

The two properties are negations of each other up to what the run may choose: `NeverPaints` is about
all runs, `CanPaint` about one, with a command of a given kind.
-/

/-- In no run does any statement change the canvas while the brush has the colour. -/
def NeverPaints (color : Color) : Prop :=
  ∀ (p : Program) (options : RunOptions) (canvas : Canvas) (s : State p),
    State.Reaches options (.start p canvas) s → s.machine.brush.color = color → s.Spares options

/-- The clear colour never paints, and it is the only such colour: every other one is painted by
each drawing command in some run, whatever its opacity. -/
theorem neverPaints_iff_clear (color : Color) :
    (NeverPaints color ↔ color = .clear) ∧
      ∀ c : Command, CanPaint c color ↔ c ∈ Command.drawing ∧ color ≠ .clear := by
  constructor
  · -- only the clear colour paints in no run
    constructor
    · intro never
      by_contra visible
      have draws : Command.drawLine ∈ Command.drawing := List.mem_cons_self
      obtain ⟨p, theme, limit, canvas, s, reaches, same, -, changes⟩ :=
        Ink.canPaint_of_drawing visible draws
      exact changes (never p _ canvas s reaches same)
    · rintro rfl p options canvas s - clears
      exact State.spares_of_clear clears
  · -- a command paints with a colour exactly if it draws and the colour is visible
    intro c
    constructor
    · rintro ⟨p, theme, limit, canvas, s, -, rfl, ⟨here, args, action⟩, changes⟩
      constructor
      · by_contra other
        exact changes (State.spares_of_call here action other)
      · intro clears
        exact changes (State.spares_of_clear clears)
    · exact fun ⟨draws, visible⟩ => Ink.canPaint_of_drawing visible draws

/-- A reachable state with a brush of opacity zero whose statement, a line, changes the canvas. Each
drawing command can paint in that colour. -/
theorem transparent_paints :
    let color : Color := ⟨1, 2, 3, 0⟩
    let s := Ink.state .drawLine [1, 0, 1] color
    State.Reaches (Ink.options color)
        (.start (Ink.program .drawLine [1, 0, 1]) (Ink.canvas color)) s ∧
      s.machine.brush.color.alpha = 0 ∧ ¬ s.Spares (Ink.options color) ∧
      ∀ c ∈ Command.drawing, CanPaint c color := by
  intro color s
  have visible : color ≠ .clear := by decide
  refine ⟨Ink.reaches_state .drawLine [1, 0, 1] color, rfl, ?_, fun c draws => ?_⟩
  · exact Ink.not_spares (Ink.call_drawLine color) (Ink.pixel?_stamp visible)
  · exact Ink.canPaint_of_drawing visible draws

end BrushScript
