import BrushScript.Interval
import BrushScript.Syntax.Program

/-!
# Faults

A fault is why a statement stopped a run. Each carries what its message tells; the wording is in
`Fault.message`, and `RuntimeError.render` puts the place of the statement before it.

The command, the operator, the parameter and the length that a fault is about are data, so a fault
that several commands can raise is one constructor, and its message is written once. Some faults
cannot occur once a script has passed the type checker; they are for programs that were built by
other means.
-/

namespace BrushScript

open Syntax

/-- An operator of either kind. -/
inductive Operator where
  | unary (op : UnaryOp)
  | binary (op : BinaryOp)
  deriving DecidableEq, Repr

/-- The operator as a script writes it. -/
def Operator.symbol : Operator → String
  | unary op => op.symbol
  | binary op => op.symbol

/-- Where a value of one type was needed. -/
inductive Place where
  | condition
  | argument (b : Builtin) (param : String)
  | operand (op : Operator)
  deriving DecidableEq, Repr

/-- The place in words. -/
def Place.describe : Place → String
  | condition => "GoTo condition"
  | argument b param => s!"'{param}' of {b.name}"
  | operand (.unary .neg) => "unary '-'"
  | operand (.unary .not) => "'!'"
  | operand (.binary op) => op.symbol

/-- The lengths that must be positive. -/
inductive Extent where
  | distance
  | radius
  | width
  | height
  deriving DecidableEq, Repr

/-- The length in words. -/
def Extent.name : Extent → String
  | distance => "distance"
  | radius => "radius"
  | width => "width"
  | height => "height"

/-- Why a statement stopped the run. -/
inductive Fault where
  | notSpawned
  | positionOutside (c : Command) (position : Point) (last : Int)
  | lineLeftCanvas (position : Point)
  | centerOutside (c : Command) (center : Point)
  | invalidColor (name : String)
  | nonPositiveBrush
  | invalidDirection (c : Command)
  | zeroDirection
  | nonPositive (c : Command) (extent : Extent)
  | negativeDistance
  | divisionByZero
  | moduloByZero
  | overflow (op : Operator)
  | undefinedVariable (name : String)
  | undefinedLabel (name : String)
  | duplicateLabel (name : String)
  | typeMismatch (place : Place) (expected found : TypeName)
  | argumentCount (b : Builtin) (found : Nat)
  | noValue (c : Command)
  | goToLimit (label : String) (limit : UInt32)
  deriving DecidableEq, Repr

/-- The wording of a fault. -/
def Fault.message : Fault → String
  | notSpawned => "Wall-E has not been spawned. Call Spawn(x, y) first."
  | positionOutside c p last =>
    s!"{c.name} position ({p.x},{p.y}) is outside the canvas bounds (0 to {last})."
  | lineLeftCanvas p => s!"Wall-E position is outside canvas bounds ({p.x},{p.y}) after DrawLine."
  | centerOutside c p => s!"{c.name} center ({p.x},{p.y}) is outside the canvas."
  | invalidColor name => s!"Invalid color name: '{name}'."
  | nonPositiveBrush => "Brush size must be positive."
  | invalidDirection c => s!"{c.name} directions (dirX, dirY) must be -1, 0, or 1."
  | zeroDirection => "DrawLine direction cannot be (0, 0)."
  | nonPositive c extent => s!"{c.name} {extent.name} must be positive."
  | negativeDistance => "DrawRectangle distance cannot be negative."
  | divisionByZero => "Division by zero."
  | moduloByZero => "Modulo by zero."
  | overflow op => s!"Arithmetic overflow in '{op.symbol}'."
  | undefinedVariable name => s!"Variable '{name}' is not defined."
  | undefinedLabel name => s!"Undefined label: '{name}'."
  | duplicateLabel name => s!"Duplicate label definition: '{name}'."
  | typeMismatch place expected found =>
    s!"Expected {expected.name} for {place.describe}, but got {found.name}."
  | argumentCount b found => s!"'{b.name}' expects {b.arity} arguments, but got {found}."
  | noValue c => s!"'{c.name}' does not produce a value."
  | goToLimit label limit =>
    s!"Execution aborted: GoTo '{label}' visited too many times ({limit.toNat})."

/-- A fault and the statement that raised it. -/
structure RuntimeError where
  fault : Fault
  span : Span
  deriving DecidableEq, Repr

/-- The line that reports a fault. -/
def RuntimeError.render (e : RuntimeError) : String :=
  s!"[Line {e.span.line}:{e.span.column}] Execution Error: {e.fault.message}"

end BrushScript
