import BrushScript.Proofs.Machine.Fault
import BrushScript.Proofs.Machine.Line

/-!
# What commands do

`Machine.Follows m m'` is what no command can break: the variables, the side of the canvas, the
robot on one of its cells, and the brush an odd number of cells wide. `EffectMeets` says of an
effect that its machine follows the one before, that its fault is allowed, and that a fault has
changed nothing unless a line left the canvas. Each command has one lemma, which are put together
in `perform_within` and, with the arguments of a call, in `call_within`.

As for expressions, the faults that are allowed are a parameter. A lemma here asks that the faults
of checks are among them, whatever the machine's position may raise, and the fault of a line where
the command can be one. So one case analysis on the commands serves the users that know that there
is a robot, those that know that the call draws no line, and those that know nothing.
-/

namespace BrushScript

open Syntax

/-- The size of a brush is an odd positive number of 64 bits. -/
structure Brush.Proper (b : Brush) : Prop where
  odd : b.size % 2 = 1
  positive : 1 ≤ b.size
  fits : Integer.Fits b.size

theorem Brush.proper_fresh : Brush.fresh.Proper := ⟨rfl, by decide, by decide⟩

namespace Machine

/-- What a command keeps of a machine, and what it can make of the rest. -/
structure Follows (m m' : Machine) : Prop where
  scope_eq : m'.scope = m.scope
  side_eq : m'.canvas.side = m.canvas.side
  pointer : m'.pointer = m.pointer ∨ ∃ q, m'.pointer = some q ∧ m.canvas.Contains q
  brush : m'.brush.size = m.brush.size ∨ m'.brush.Proper

variable {m m' m'' : Machine} {allowed : Fault → Prop} {resolver : Option ColorResolver}

theorem Follows.refl (m : Machine) : m.Follows m := ⟨rfl, rfl, .inl rfl, .inl rfl⟩

theorem Follows.trans (first : m.Follows m') (second : m'.Follows m'') : m.Follows m'' where
  scope_eq := second.scope_eq.trans first.scope_eq
  side_eq := second.side_eq.trans first.side_eq
  pointer := by
    rcases second.pointer with same | ⟨q, at_q, on⟩
    · rw [same]
      exact first.pointer
    · exact .inr ⟨q, at_q, (Canvas.contains_congr first.side_eq).mp on⟩
  brush := by
    rcases second.brush with same | proper
    · rcases first.brush with same' | ⟨odd, positive, fits⟩
      · exact .inl (same.trans same')
      · exact .inr ⟨same ▸ odd, same ▸ positive, same ▸ fits⟩
    · exact .inr proper

/-! ## Checks

What commands look at before they do anything. Each check either gives a value, of which only
`meets_center` says something, or raises a fault of the checks.
-/

theorem raises_direction (checks : ∀ {f}, f.ofCheck = true → allowed f) (c : Command)
    (dx dy : Int64) : Raises allowed (direction c dx dy) :=
  .ite (fun _ => trivial) fun _ => checks rfl

theorem raises_positive (checks : ∀ {f}, f.ofCheck = true → allowed f) (c : Command)
    (extent : Extent) (n : Int64) : Raises allowed (positive c extent n) :=
  .ite (fun _ => trivial) fun _ => checks rfl

/-- A centre lies on the canvas. -/
theorem meets_center (checks : ∀ {f}, f.ofCheck = true → allowed f)
    (position : Raises allowed m.position) (c : Command) (direction : Point) (distance : Int) :
    Meets allowed m.canvas.Contains (m.center c direction distance) := by
  refine position.bind fun p _ => .ite (fun _ => checks rfl) fun _ => ?_
  exact .ite (fun on => on) fun _ => checks rfl

theorem raises_lineCourse (checks : ∀ {f}, f.ofCheck = true → allowed f)
    (position : Raises allowed m.position) (dx dy distance : Int64) :
    Raises allowed (m.lineCourse dx dy distance) := by
  refine (raises_direction checks .drawLine dx dy).bind fun step _ => ?_
  refine .ite (fun _ => checks rfl) fun _ => ?_
  refine (raises_positive checks .drawLine .distance distance).bind fun length _ => ?_
  exact position.bind fun _ _ => trivial

/-! ## Commands that do all or nothing

All commands but one compute their new machine from values that were all checked before, so a fault
comes before any change. Their results are machines or faults, and it is enough to say what the
machine looks like.
-/

theorem follows_place (checks : ∀ {f}, f.ofCheck = true → allowed f) (m : Machine) (c : Command)
    (x y : Int64) : Meets allowed m.Follows (m.place c x y) :=
  .ite (fun on => ⟨rfl, rfl, .inr ⟨_, rfl, on⟩, .inl rfl⟩) fun _ => checks rfl

-- keeps elaboration from looking the name up in the palette
attribute [local irreducible] colorOf

theorem follows_setColor (checks : ∀ {f}, f.ofCheck = true → allowed f)
    (resolver : Option ColorResolver) (m : Machine) (name : String) :
    Meets allowed m.Follows (setColor resolver m name) :=
  (raises_colorOf resolver (fun _ => checks rfl) name).bind fun _ _ =>
    ⟨rfl, rfl, .inl rfl, .inl rfl⟩

theorem follows_setSize (checks : ∀ {f}, f.ofCheck = true → allowed f) (m : Machine) (k : Int64) :
    Meets allowed m.Follows (m.setSize k) := by
  refine .ite (fun _ => checks rfl) fun positive => ?_
  -- an even size loses one, which leaves it odd, positive and in range
  have fits := Integer.fits_toInt k
  refine ⟨rfl, rfl, .inl rfl, .inr ⟨?_, ?_, ?_, ?_⟩⟩
  all_goals
    simp only [Integer.least, Integer.greatest, Integer.Fits] at *
    split <;> omega

theorem follows_drawCircle (checks : ∀ {f}, f.ofCheck = true → allowed f)
    (position : Raises allowed m.position) (dx dy radius : Int64) :
    Meets allowed m.Follows (m.drawCircle dx dy radius) := by
  refine (raises_direction checks .drawCircle dx dy).bind fun step _ => ?_
  refine (raises_positive checks .drawCircle .radius radius).bind fun r _ => ?_
  refine (meets_center checks position .drawCircle step r).bind fun q on => ?_
  exact ⟨rfl, Paint.side_circle .., .inr ⟨q, rfl, on⟩, .inl rfl⟩

theorem follows_drawRectangle (checks : ∀ {f}, f.ofCheck = true → allowed f)
    (position : Raises allowed m.position) (dx dy distance width height : Int64) :
    Meets allowed m.Follows (m.drawRectangle dx dy distance width height) := by
  refine (raises_direction checks .drawRectangle dx dy).bind fun step _ => ?_
  refine .ite (fun _ => checks rfl) fun _ => ?_
  refine (raises_positive checks .drawRectangle .width width).bind fun w _ => ?_
  refine (raises_positive checks .drawRectangle .height height).bind fun h _ => ?_
  refine (meets_center checks position .drawRectangle step distance.toInt).bind fun q on => ?_
  exact ⟨rfl, Paint.side_rectangle .., .inr ⟨q, rfl, on⟩, .inl rfl⟩

theorem follows_fill (position : Raises allowed m.position) : Meets allowed m.Follows m.fill :=
  position.bind fun _ _ => ⟨rfl, Paint.side_flood .., .inl rfl, .inl rfl⟩

/-! ## Effects

A line changes the machine cell by cell and may fault in the middle. What it has done until then is
an effect, and its machine follows the one before by induction on the cells; for the other commands
the effect is that of their result.
-/

/-- The machine of an effect follows the one before, its fault is allowed, and with a fault nothing
has changed, unless a line has left the canvas. -/
structure EffectMeets (m : Machine) (allowed : Fault → Prop) (effect : Effect) : Prop where
  follows : m.Follows effect.machine
  allowed_of_fault : ∀ {fault}, effect.fault = some fault → allowed fault
  atomic : ∀ {fault}, effect.fault = some fault →
    effect.machine = m ∨ ∃ q, fault = .lineLeftCanvas q

theorem EffectMeets.of_error {fault : Fault} (h : allowed fault) :
    m.EffectMeets allowed ⟨m, some fault⟩ where
  follows := .refl m
  allowed_of_fault same := Option.some.inj same ▸ h
  atomic _ := .inl rfl

theorem EffectMeets.of_result {r : Except Fault Machine} (h : Meets allowed m.Follows r) :
    m.EffectMeets allowed (m.effectOf r) := by
  cases r with
  | ok m' => exact ⟨h, nofun, nofun⟩
  | error fault => exact .of_error h

theorem follows_drawCells (m : Machine) (q step : Point) (n : Nat) :
    m.Follows (m.drawCells q step n).machine := by
  induction n generalizing m q with
  | zero => exact .refl m
  | succ n ih =>
    rw [drawCells]
    split
    · next on =>
      -- the robot has gone on to `q`, and the rest of the line starts behind it
      refine Follows.trans ?_ (ih _ _)
      exact ⟨rfl, Paint.side_stamp .., .inr ⟨q, rfl, on⟩, .inl rfl⟩
    · exact .refl m

theorem drawLine_within (checks : ∀ {f}, f.ofCheck = true → allowed f)
    (position : Raises allowed m.position) (line : ∀ q, allowed (.lineLeftCanvas q))
    (dx dy distance : Int64) : m.EffectMeets allowed (m.drawLine dx dy distance) := by
  have course := raises_lineCourse checks position dx dy distance
  unfold drawLine
  split
  · refine ⟨follows_drawCells .., fun failed => ?_, fun failed => ?_⟩
    · obtain ⟨_, _, _, _, _, rfl⟩ := drawCells_fault failed
      exact line _
    · obtain ⟨_, _, _, _, _, off⟩ := drawCells_fault failed
      exact .inr ⟨_, off⟩
  · next fault failed =>
    rw [failed] at course
    exact .of_error course

/-- What a command does, whatever it is. -/
theorem perform_within {c : Command} (checks : ∀ {f}, f.ofCheck = true → allowed f)
    (position : Raises allowed m.position)
    (line : c = .drawLine → ∀ q, allowed (.lineLeftCanvas q)) (args : Arguments c.params) :
    m.EffectMeets allowed (m.perform resolver c args) := by
  cases c with
  | spawn => exact .of_result (follows_place checks ..)
  | moveTo => exact .of_result (follows_place checks ..)
  | color => exact .of_result (follows_setColor checks ..)
  | size => exact .of_result (follows_setSize checks ..)
  | drawLine => exact drawLine_within checks position (line rfl) ..
  | drawCircle => exact .of_result (follows_drawCircle checks position ..)
  | drawRectangle => exact .of_result (follows_drawRectangle checks position ..)
  | fill => exact .of_result (follows_fill position)

/-- What a call that stands as a statement does, given what its arguments may raise. -/
theorem call_within {b : Builtin} {args : List Expr}
    (evaluated : Raises allowed (m.evalArguments resolver b args))
    (checks : ∀ {f}, f.ofCheck = true → allowed f) (position : Raises allowed m.position)
    (line : b = .command .drawLine → ∀ q, allowed (.lineLeftCanvas q)) :
    m.EffectMeets allowed (m.call resolver b args) := by
  unfold call
  split
  · next fault failed =>
    rw [failed] at evaluated
    exact .of_error evaluated
  · next values _ =>
    cases b with
    | command c => exact perform_within checks position (fun same => line (by rw [same])) values
    | query q =>
      have answered : Meets allowed (fun v => v.type = q.answer) (m.answer resolver q values) :=
        meets_answer_within position (fun _ => checks rfl) q values
      exact .of_result (answered.map fun _ _ => .refl m)

theorem raises_evalArguments_ofExpression (resolver : Option ColorResolver) (m : Machine)
    (b : Builtin) (args : List Expr) :
    Raises (·.ofExpression) (m.evalArguments resolver b args) :=
  raises_evalArguments (Fault.among_mono (by decide)) fun arg _ => raises_eval resolver m arg

/-- Calls raise the faults of expressions and those of commands. -/
theorem call_meets (resolver : Option ColorResolver) (m : Machine) (b : Builtin)
    (args : List Expr) :
    m.EffectMeets (fun f => f.ofExpression = true ∨ f.ofCommand = true)
      (m.call resolver b args) := by
  have evaluated := m.raises_evalArguments_ofExpression resolver b args
  have position : Raises (·.ofCommand) m.position :=
    m.raises_position.allow (Fault.among_mono (by decide))
  exact call_within (evaluated.allow .inl) (fun h => .inr (Fault.among_mono (by decide) h))
    (position.allow .inr) fun _ _ => .inr rfl

theorem follows_of_call {b : Builtin} {args : List Expr} {fault : Option Fault}
    (called : m.call resolver b args = ⟨m', fault⟩) : m.Follows m' := by
  have kept := (m.call_meets resolver b args).follows
  rw [called] at kept
  exact kept

end Machine
end BrushScript
