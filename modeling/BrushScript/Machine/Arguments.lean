import BrushScript.Machine.Value

/-!
# Typed arguments

A command or query takes its arguments as a tuple of the types that its parameters ask for.
`Arguments.ofValues` makes the tuple from values, and faults at the first value of another type;
what runs a built-in never has to look at types again.

The type of the tuple is computed from the list of parameters, so that a command with three numbers
is given three numbers, and a parameter that is added to the table of built-in words does not go
unnoticed where they are carried out. All values are there before the first type is looked at.
-/

namespace BrushScript

open Syntax

/-- What a value of a type carries. -/
abbrev Syntax.TypeName.Carrier : TypeName → Type
  | .number => Int64
  | .string => String
  | .boolean => Bool
  | .void => Unit

/-- What a value carries, if it has the given type. -/
def Value.as? : (type : TypeName) → Value → Option type.Carrier
  | .number, .number n => some n
  | .string, .string s => some s
  | .boolean, .boolean b => some b
  | _, _ => none

/-- One carried thing for each parameter. -/
abbrev Arguments : List Param → Type
  | [] => Unit
  | p :: ps => p.type.Carrier × Arguments ps

/-- The arguments that values make. The caller has compared their number with that of the
parameters. -/
def Arguments.ofValues (b : Builtin) : (params : List Param) → List Value →
    Except Fault (Arguments params)
  | [], _ => .ok ()
  | _ :: _, [] => .error (.argumentCount b 0)
  | p :: ps, v :: vs =>
    match v.as? p.type with
    | none => .error (.typeMismatch (.argument b p.name) p.type v.type)
    | some a => (ofValues b ps vs).map fun rest => (a, rest)

end BrushScript
