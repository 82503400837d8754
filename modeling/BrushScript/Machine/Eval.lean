import BrushScript.Canvas
import BrushScript.Machine.Arguments
import BrushScript.Scope
import BrushScript.Theme

/-!
# The machine, and what expressions mean on it

The machine is a canvas, a robot that stands on one of its cells or has not been placed yet, the
robot's brush, and the variables. Evaluating an expression looks at the machine and changes nothing.
Operands and arguments are evaluated from left to right and the first fault wins; both operands of
`&&` and `||` are always evaluated.

A call looks at the number of its arguments before it evaluates one of them, and at their types when
it has evaluated all. A command in an expression has no value; it faults without a look at its
arguments, and is not carried out.
-/

namespace BrushScript

open Syntax

/-- What the robot paints with. -/
structure Brush where
  color : Color
  size : Int
  deriving DecidableEq, Repr

/-- The brush before any command: it does not paint. -/
def Brush.fresh : Brush := ⟨.clear, 1⟩

/-- A canvas, the robot on it, its brush, and the variables. -/
structure Machine where
  canvas : Canvas
  pointer : Option Point
  brush : Brush
  scope : Scope Value

namespace Machine

/-- The machine before a program runs. -/
def start (canvas : Canvas) : Machine := ⟨canvas, none, .fresh, .empty⟩

/-- Where the robot stands. -/
def position (m : Machine) : Except Fault Point :=
  match m.pointer with
  | some p => .ok p
  | none => .error .notSpawned

/-- The colour of a name, under the resolver of the run. -/
def colorOf (resolver : Option ColorResolver) (name : String) : Except Fault Color :=
  match resolveColor resolver name with
  | some color => .ok color
  | none => .error (.invalidColor name)

/-- The answer to a query. -/
def answer (resolver : Option ColorResolver) (m : Machine) : (q : Query) → Arguments q.params →
    Except Fault Value
  | .actualX, _ => do return .number (Int64.ofInt (← m.position).x)
  | .actualY, _ => do return .number (Int64.ofInt (← m.position).y)
  | .canvasSize, _ => .ok (.number (Int64.ofNat m.canvas.side))
  | .colorCount, (name, x₁, y₁, x₂, y₂, _) => do
    let color ← colorOf resolver name
    let box := Box.between ⟨x₁.toInt, y₁.toInt⟩ ⟨x₂.toInt, y₂.toInt⟩
    return .number (Int64.ofNat (m.canvas.count color box))
  | .isBrushColor, (name, _) => do
    let color ← colorOf resolver name
    return .boolean (m.brush.color.approx color)
  | .isBrushSize, (size, _) => .ok (.boolean (m.brush.size = size.toInt))
  | .isCanvasColor, (name, vertical, horizontal, _) => do
    let color ← colorOf resolver name
    let p ← m.position
    let pixel := m.canvas.pixel? ⟨p.x + horizontal.toInt, p.y + vertical.toInt⟩
    return .boolean (pixel.any (·.approx color))

mutual

/-- The value of an expression. -/
def eval (resolver : Option ColorResolver) (m : Machine) : Expr → Except Fault Value
  | .number n _ => .ok (.number n)
  | .string s _ => .ok (.string s)
  | .boolean b _ => .ok (.boolean b)
  | .var name _ =>
    match m.scope.get? name with
    | some v => .ok v
    | none => .error (.undefinedVariable name)
  | .unary op operand _ => do Value.applyUnary op (← eval resolver m operand)
  | .binary op left right _ => do
    let l ← eval resolver m left
    let r ← eval resolver m right
    Value.applyBinary op l r
  | .call (.command c) _ _ => .error (.noValue c)
  | .call (.query q) args _ =>
    if args.length = q.params.length then do
      let values ← evalAll resolver m args
      answer resolver m q (← Arguments.ofValues (.query q) q.params values)
    else .error (.argumentCount (.query q) args.length)

/-- The values of a list of expressions. -/
def evalAll (resolver : Option ColorResolver) (m : Machine) : List Expr → Except Fault (List Value)
  | [] => .ok []
  | e :: es => do
    let v ← eval resolver m e
    let vs ← evalAll resolver m es
    return v :: vs

end

/-- The arguments of a call: their number, their values, and then their types are looked at. -/
def evalArguments (resolver : Option ColorResolver) (m : Machine) (b : Builtin) (args : List Expr) :
    Except Fault (Arguments b.params) :=
  if args.length = b.arity then do Arguments.ofValues b b.params (← evalAll resolver m args)
  else .error (.argumentCount b args.length)

end Machine
end BrushScript
