import BrushScript.Text.Caseless

/-!
# Commands and queries

The built-in words of the language. A command stands as a statement, paints or moves, and gives no
value; a query stands in an expression and gives a value. Each has a fixed list of typed parameters,
from which the parser takes the number of arguments, the type checker their types and the reference
their description.

A built-in word is known in any case of its letters. The two kinds are separate types, as most of
the program treats one of them only, and `Builtin` is either.
-/

namespace BrushScript.Syntax

/-- The types of values. `void` is what a command gives: no value at all. -/
inductive TypeName where
  | number
  | string
  | boolean
  | void
  deriving DecidableEq, Repr, Inhabited

/-- The type as messages write it. -/
def TypeName.name : TypeName → String
  | .number => "Number"
  | .string => "String"
  | .boolean => "Boolean"
  | .void => "Void"

/-- A parameter of a command or query. -/
structure Param where
  name : String
  type : TypeName
  deriving DecidableEq, Repr

/-- What moves the robot, changes its brush or paints. -/
inductive Command where
  | spawn
  | moveTo
  | color
  | size
  | drawLine
  | drawCircle
  | drawRectangle
  | fill
  deriving DecidableEq, Repr

/-- What asks about the robot or the canvas. -/
inductive Query where
  | actualX
  | actualY
  | canvasSize
  | colorCount
  | isBrushColor
  | isBrushSize
  | isCanvasColor
  deriving DecidableEq, Repr

namespace Command

/-- All commands, in the order of the reference. -/
def all : List Command :=
  [spawn, moveTo, color, size, drawLine, drawCircle, drawRectangle, fill]

/-- The word for a command. -/
def name : Command → String
  | spawn => "Spawn"
  | moveTo => "MoveTo"
  | color => "Color"
  | size => "Size"
  | drawLine => "DrawLine"
  | drawCircle => "DrawCircle"
  | drawRectangle => "DrawRectangle"
  | fill => "Fill"

/-- The parameters of a command. -/
def params : Command → List Param
  | spawn => [⟨"x", .number⟩, ⟨"y", .number⟩]
  | moveTo => [⟨"x", .number⟩, ⟨"y", .number⟩]
  | color => [⟨"name", .string⟩]
  | size => [⟨"k", .number⟩]
  | drawLine => [⟨"dirX", .number⟩, ⟨"dirY", .number⟩, ⟨"distance", .number⟩]
  | drawCircle => [⟨"dirX", .number⟩, ⟨"dirY", .number⟩, ⟨"radius", .number⟩]
  | drawRectangle =>
    [⟨"dirX", .number⟩, ⟨"dirY", .number⟩, ⟨"distance", .number⟩, ⟨"width", .number⟩,
      ⟨"height", .number⟩]
  | fill => []

/-- What a command does, in one line. -/
def description : Command → String
  | spawn => "Place Wall-E on the canvas. Must be the first statement"
  | moveTo => "Move Wall-E to an absolute position without painting"
  | color => "Set the brush color by name (theme first, then built-in palette)"
  | size => "Set the brush size. Even sizes round down to the previous odd size"
  | drawLine => "Paint `distance` brush stamps along a direction, ending on the last one"
  | drawCircle => "Paint a circle outline centered `radius` cells away in a direction"
  | drawRectangle => "Paint a rectangle outline centered `distance` cells away in a direction"
  | fill => "Flood fill the 4-connected region under Wall-E with the brush color"

end Command

namespace Query

/-- All queries, in the order of the reference. -/
def all : List Query :=
  [actualX, actualY, canvasSize, colorCount, isBrushColor, isBrushSize, isCanvasColor]

/-- The word for a query. -/
def name : Query → String
  | actualX => "GetActualX"
  | actualY => "GetActualY"
  | canvasSize => "GetCanvasSize"
  | colorCount => "GetColorCount"
  | isBrushColor => "IsBrushColor"
  | isBrushSize => "IsBrushSize"
  | isCanvasColor => "IsCanvasColor"

/-- The parameters of a query. -/
def params : Query → List Param
  | actualX => []
  | actualY => []
  | canvasSize => []
  | colorCount =>
    [⟨"color", .string⟩, ⟨"x1", .number⟩, ⟨"y1", .number⟩, ⟨"x2", .number⟩, ⟨"y2", .number⟩]
  | isBrushColor => [⟨"color", .string⟩]
  | isBrushSize => [⟨"size", .number⟩]
  | isCanvasColor => [⟨"color", .string⟩, ⟨"vertical", .number⟩, ⟨"horizontal", .number⟩]

/-- The type of a query's answer. -/
def answer : Query → TypeName
  | actualX => .number
  | actualY => .number
  | canvasSize => .number
  | colorCount => .number
  | isBrushColor => .boolean
  | isBrushSize => .boolean
  | isCanvasColor => .boolean

/-- What a query tells, in one line. -/
def description : Query → String
  | actualX => "Wall-E's current column"
  | actualY => "Wall-E's current row"
  | canvasSize => "Side length of the square canvas"
  | colorCount => "Count pixels of a color inside the rectangle spanned by two corners"
  | isBrushColor => "True if the brush currently paints this color"
  | isBrushSize => "True if the brush currently has this size"
  | isCanvasColor =>
    "True if the pixel at Wall-E's position plus an offset has this color. False off-canvas"

end Query

/-- A command or a query. -/
inductive Builtin where
  | command (c : Command)
  | query (q : Query)
  deriving DecidableEq, Repr

namespace Builtin

/-- All built-in words, commands first. -/
def all : List Builtin := Command.all.map command ++ Query.all.map query

/-- The word for it. -/
def name : Builtin → String
  | command c => c.name
  | query q => q.name

/-- Its parameters. -/
def params : Builtin → List Param
  | command c => c.params
  | query q => q.params

/-- The number of its arguments. -/
def arity (b : Builtin) : Nat := b.params.length

/-- The type of what it gives. -/
def answer : Builtin → TypeName
  | command _ => .void
  | query q => q.answer

/-- What it does, in one line. -/
def description : Builtin → String
  | command c => c.description
  | query q => q.description

/-- The word with its typed parameters and the type of its answer. -/
def signature (b : Builtin) : String :=
  let params := ", ".intercalate (b.params.map fun p => p.name ++ ": " ++ p.type.name)
  let base := b.name ++ "(" ++ params ++ ")"
  if b.answer = .void then base else base ++ " -> " ++ b.answer.name

/-- The built-in with the given word, in any case. -/
def lookup? (word : String) : Option Builtin :=
  all.find? fun b => Text.caselessEq b.name word

end Builtin
end BrushScript.Syntax
