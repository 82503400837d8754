import BrushScript.Json.Printer
import BrushScript.Json.Record
import BrushScript.Store.Storage

/-!
# Documents

A document is a JSON value in a file. Reading asks for exactly one value of the expected form;
writing lays it out indented, without a line end after it, and replaces the file.

What stands behind the value is looked at last. So of a file that is wrong in two ways, in its form
and in what follows, the form is what is reported; this can be told apart only for a canvas, whose
decoder has more than one way to fail.
-/

namespace BrushScript.Document

/-- The thing that a text describes. What follows the value is looked at last. -/
def parse {α : Type} (decode : Json → Except DocumentError α) (s : String) :
    Except DocumentError α :=
  match Json.read? s with
  | none => .error .malformed
  | some (value, clean) => do
    let a ← decode value
    if clean then return a else .error .malformed

/-- A decoder for which there is one way to fail. -/
def ofOption {α : Type} (decode : Json → Option α) (j : Json) : Except DocumentError α :=
  match decode j with
  | some a => .ok a
  | none => .error .malformed

variable {m : Type → Type} [Monad m] [Storage m]

/-- The thing that a file describes. -/
def load {α : Type} (decode : Json → Except DocumentError α) (path : Path) :
    ExceptT StoreError m α := do
  let s ← Storage.readText path
  match parse decode s with
  | .ok a => return a
  | .error e => throw (.document e)

/-- Replace a file by a value. -/
def save (path : Path) (value : Json) : ExceptT StoreError m Unit :=
  Storage.replaceFile path value.pretty.toUTF8

end BrushScript.Document
