import BrushScript.Machine.Eval
import BrushScript.Paint.Circle
import BrushScript.Paint.Flood
import BrushScript.Paint.Rectangle

/-!
# What commands do to the machine

A command checks its arguments, then where the robot is, and only then paints. So a fault leaves the
canvas alone, with one exception: a line paints cell by cell and faults at the first cell off the
canvas, with all cells before it painted. `Effect` is therefore a machine and possibly a fault.

The checks are shared. A direction goes at most one cell along each axis, a length is positive, and
the cell to which a circle or a rectangle moves the robot lies on the canvas; its coordinates are
computed exactly, and one that does not fit 64 bits is an overflow and not a cell off the canvas.
Each check is told which command it is made for, since its message names the command.

Every brush size that is stored is odd. The order of the checks is the order in which a script with
two mistakes hears of them.
-/

namespace BrushScript

open Syntax

/-- What came of a command: the machine after it, and the fault that ended it, if one did. -/
structure Effect where
  machine : Machine
  fault : Option Fault

namespace Machine

/-! ## Checks -/

/-- A direction, which goes at most one cell along each axis. -/
def direction (c : Command) (dx dy : Int64) : Except Fault Point :=
  if (dx = -1 ∨ dx = 0 ∨ dx = 1) ∧ (dy = -1 ∨ dy = 0 ∨ dy = 1) then .ok ⟨dx.toInt, dy.toInt⟩
  else .error (.invalidDirection c)

/-- A length that must be positive. -/
def positive (c : Command) (extent : Extent) (n : Int64) : Except Fault Int :=
  if 0 < n.toInt then .ok n.toInt else .error (.nonPositive c extent)

/-- The cell a number of steps away from the robot, which must lie on the canvas. -/
def center (m : Machine) (c : Command) (direction : Point) (distance : Int) :
    Except Fault Point := do
  let p ← m.position
  let q : Point := ⟨p.x + direction.x * distance, p.y + direction.y * distance⟩
  if ¬ (Integer.Fits q.x ∧ Integer.Fits q.y) then .error (.overflow (.binary .mul))
  else if m.canvas.Contains q then .ok q
  else .error (.centerOutside c q)

/-! ## Commands -/

/-- Put the robot on a cell. -/
def place (m : Machine) (c : Command) (x y : Int64) : Except Fault Machine :=
  let p : Point := ⟨x.toInt, y.toInt⟩
  if m.canvas.Contains p then .ok { m with pointer := some p }
  else .error (.positionOutside c p (m.canvas.side - 1))

/-- Take another colour. -/
def setColor (resolver : Option ColorResolver) (m : Machine) (name : String) :
    Except Fault Machine := do
  return { m with brush := { m.brush with color := ← colorOf resolver name } }

/-- Take another brush size; an even size becomes the odd one below it. -/
def setSize (m : Machine) (k : Int64) : Except Fault Machine :=
  let k := k.toInt
  if k ≤ 0 then .error .nonPositiveBrush
  else .ok { m with brush := { m.brush with size := if k % 2 = 0 then k - 1 else k } }

/-- Stamp the brush on a number of cells in a row, the robot going along. The first cell off the
canvas is a fault, which names the cell before it. -/
def drawCells (m : Machine) (p step : Point) : Nat → Effect
  | 0 => ⟨m, none⟩
  | n + 1 =>
    if m.canvas.Contains p then
      drawCells
        { m with
          canvas := Paint.stamp m.canvas p m.brush.size m.brush.color
          pointer := some p }
        ⟨p.x + step.x, p.y + step.y⟩ step n
    else ⟨m, some (.lineLeftCanvas ⟨p.x - step.x, p.y - step.y⟩)⟩

/-- The first cell, the step and the length of a line. -/
def lineCourse (m : Machine) (dx dy distance : Int64) : Except Fault (Point × Point × Int) := do
  let step ← direction .drawLine dx dy
  if step = ⟨0, 0⟩ then .error .zeroDirection
  else
    let length ← positive .drawLine .distance distance
    return (← m.position, step, length)

/-- Draw a line from the robot, which ends on its last cell. -/
def drawLine (m : Machine) (dx dy distance : Int64) : Effect :=
  match m.lineCourse dx dy distance with
  | .ok (p, step, length) => m.drawCells p step length.toNat
  | .error fault => ⟨m, some fault⟩

/-- Draw a circle around a cell one radius away, where the robot goes. -/
def drawCircle (m : Machine) (dx dy radius : Int64) : Except Fault Machine := do
  let step ← direction .drawCircle dx dy
  let radius ← positive .drawCircle .radius radius
  let p ← m.center .drawCircle step radius
  return { m with
    canvas := Paint.circle m.canvas p radius m.brush.size m.brush.color
    pointer := some p }

/-- Draw a rectangle around a cell some way off, where the robot goes. -/
def drawRectangle (m : Machine) (dx dy distance width height : Int64) : Except Fault Machine := do
  let step ← direction .drawRectangle dx dy
  if distance < 0 then .error .negativeDistance
  else
    let width ← positive .drawRectangle .width width
    let height ← positive .drawRectangle .height height
    let p ← m.center .drawRectangle step distance.toInt
    return { m with
      canvas := Paint.rectangle m.canvas p width height m.brush.size m.brush.color
      pointer := some p }

/-- Fill the region under the robot. -/
def fill (m : Machine) : Except Fault Machine := do
  let p ← m.position
  return { m with canvas := (Paint.flood m.canvas p m.brush.color).1 }

/-- The effect of what faults before it changes anything. -/
def effectOf (m : Machine) : Except Fault Machine → Effect
  | .ok m' => ⟨m', none⟩
  | .error fault => ⟨m, some fault⟩

/-- Carry out a command. -/
def perform (resolver : Option ColorResolver) (m : Machine) :
    (c : Command) → Arguments c.params → Effect
  | .spawn, (x, y, _) => m.effectOf (m.place .spawn x y)
  | .moveTo, (x, y, _) => m.effectOf (m.place .moveTo x y)
  | .color, (name, _) => m.effectOf (m.setColor resolver name)
  | .size, (k, _) => m.effectOf (m.setSize k)
  | .drawLine, (dx, dy, distance, _) => m.drawLine dx dy distance
  | .drawCircle, (dx, dy, radius, _) => m.effectOf (m.drawCircle dx dy radius)
  | .drawRectangle, (dx, dy, distance, width, height, _) =>
    m.effectOf (m.drawRectangle dx dy distance width height)
  | .fill, _ => m.effectOf m.fill

/-- Carry out a call that stands as a statement. A query is asked and its answer dropped. -/
def call (resolver : Option ColorResolver) (m : Machine) (b : Builtin) (args : List Expr) :
    Effect :=
  match m.evalArguments resolver b args with
  | .error fault => ⟨m, some fault⟩
  | .ok values =>
    match b, values with
    | .command c, values => m.perform resolver c values
    | .query q, values => m.effectOf ((m.answer resolver q values).map fun _ => m)

end Machine
end BrushScript
