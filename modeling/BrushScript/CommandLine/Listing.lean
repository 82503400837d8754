import BrushScript.Script
import BrushScript.Settings
import BrushScript.Theme.Document

/-!
# Listings

How results are shown: as lines for people, with columns filled up by blanks, and as JSON for other
programs, with the keys of every object in alphabetical order.

For most kinds of results there is a function to a line and one to JSON, side by side. A name that
is longer than its column pushes the rest of the line to the right and is never cut.
-/

namespace BrushScript.CommandLine

open Syntax

/-- A text filled up with blanks at its end. -/
def padRight (width : Nat) (s : String) : String := String.ofList (s.toList.rightpad width ' ')

/-- A text filled up with blanks at its front. -/
def padLeft (width : Nat) (s : String) : String := String.ofList (s.toList.leftpad width ' ')

/-- The text of a JSON result. -/
def jsonText (j : Json) : String := j.sorted.pretty

/-! ## Runs -/

/-- A report as JSON. -/
def reportJson (r : Report) : Json :=
  .record [("pointer", .option (fun p => .list .int [p.x, p.y]) r.pointer),
    ("brush_color", r.brush.color.toJson), ("brush_size", .int r.brush.size),
    ("steps", .int r.steps)]

/-- A report on one line. -/
def reportLine (side : Nat) (r : Report) : String :=
  let pointer := r.pointer.elim "-" fun p => s!"({p.x}, {p.y})"
  s!"Drew {side}x{side} canvas in {r.steps} steps, Wall-E at {pointer}, " ++
    s!"brush {r.brush.color.toHex} size {r.brush.size}"

/-- A finished run as JSON. -/
def successJson (r : Report) (out : Path) : Json :=
  .record [("ok", .boolean true), ("report", reportJson r), ("output", .text out.text)]

/-- A run or check with problems as JSON, with the file that was written nevertheless. -/
def failureJson (problems : List String) (out : Option Path) : Json :=
  .record ([("ok", .boolean false), ("errors", .list .text problems)] ++
    (out.map fun p => ("output", .text p.text)).toList)

/-! ## Tokens -/

/-- A token on one line, behind its line and column. -/
def tokenLine (t : Located Token) : String :=
  padLeft 4 (toString t.span.line) ++ ":" ++ padRight 4 (toString t.span.column) ++ " " ++
    t.value.describe

/-- A token as JSON. -/
def tokenJson (t : Located Token) : Json :=
  .record [("token", .text t.value.describe), ("line", .int t.span.line),
    ("column", .int t.span.column)]

/-! ## The reference -/

/-- An entry of the reference. -/
def entryLine (signature description : String) : String :=
  "  " ++ padRight 70 signature ++ " " ++ description

/-- The reference: the commands, the queries, and the jump. -/
def referenceLines : List String :=
  let entries (builtins : List Builtin) := builtins.map fun b => entryLine b.signature b.description
  "Commands:" :: entries (Command.all.map .command) ++
    "Queries:" :: entries (Query.all.map .query) ++
    ["Control flow:",
      entryLine "GoTo [label] (condition: Boolean)" "Jump to label when the condition is true"]

/-- The word for a kind of builtin. -/
def categoryName : Builtin → String
  | .command _ => "command"
  | .query _ => "function"

/-- The reference as JSON. -/
def referenceJson : Json :=
  .list (fun b => .record [("name", .text b.name), ("category", .text (categoryName b)),
    ("signature", .text b.signature), ("description", .text b.description)]) Builtin.all

/-! ## Colours -/

/-- A colour of the legend on one line. -/
def colorLine (entry : String × Color) : String :=
  "  " ++ padRight 16 entry.1 ++ " " ++ entry.2.toHex

/-- A colour of the legend as JSON. -/
def colorJson (entry : String × Color) : Json :=
  .record [("name", .text entry.1), ("color", entry.2.toJson), ("hex", .text entry.2.toHex)]

/-! ## Settings -/

/-- Settings, one on each line. -/
def settingsLines (s : Settings) : List String := [
  s!"canvas_size:     {s.canvasSize.toNat}",
  s!"background:      {s.background}",
  "theme:           " ++ s.theme.getD "(none)",
  s!"max_goto_visits: {s.maxGoToVisits.toNat}",
  s!"export_format:   {s.exportFormat.name}"]

end BrushScript.CommandLine
