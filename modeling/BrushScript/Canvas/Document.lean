import BrushScript.Canvas.Ppm
import BrushScript.Store.Document

/-!
# Stored canvases

A canvas is exported as a PPM image or as JSON, and read back from JSON: its side, and all its
pixels row by row. A canvas with another number of pixels than its side asks for is refused.

The side is a number of 64 bits and the pixels are counted without a bound, so a side whose square
has gone round a word never goes with a short list of pixels. A colour is an object of four channels
or an array of them, as every record may be; no channel may be missing.
-/

namespace BrushScript

/-- A colour as JSON. -/
def Color.toJson (c : Color) : Json :=
  .record [("r", .int c.red.toNat), ("g", .int c.green.toNat), ("b", .int c.blue.toNat),
    ("a", .int c.alpha.toNat)]

/-- A channel of a stored colour. -/
def Color.channelOfJson? (j : Json) : Option UInt8 := (j.natBelow? 256).map UInt8.ofNat

/-- The colour that a value describes. -/
def Color.ofJson? (j : Json) : Option Color := do
  match ← j.fields? ["r", "g", "b", "a"] with
  | [some r, some g, some b, some a] =>
    return ⟨← channelOfJson? r, ← channelOfJson? g, ← channelOfJson? b, ← channelOfJson? a⟩
  | _ => none

/-- How a finished canvas is stored. -/
inductive ExportFormat where
  | ppm
  | json
  deriving DecidableEq, Repr

/-- The format's word, which is also the extension of its files. -/
def ExportFormat.name : ExportFormat → String
  | ppm => "ppm"
  | json => "json"

/-- All formats, in the order in which help lists them. -/
def ExportFormat.all : List ExportFormat := [ppm, json]

/-- What a format holds. -/
def ExportFormat.summary : ExportFormat → String
  | ppm => "Binary PPM (P6) image"
  | json => "Canvas JSON: `\x7b size, pixels \x7d`"

/-- The format of a word. -/
def ExportFormat.ofName? : String → Option ExportFormat
  | "ppm" => some ppm
  | "json" => some json
  | _ => none

namespace Canvas

/-- A canvas as JSON. -/
def toJson (c : Canvas) : Json :=
  .record [("size", .int c.side), ("pixels", .list Color.toJson c.pixels.toList)]

/-- The side and the pixels that a value describes, whether or not they go together. -/
def partsOfJson? (j : Json) : Option (Nat × List Color) := do
  match ← j.fields? ["size", "pixels"] with
  | [some side, some pixels] =>
    return (← side.natBelow? 0x10000000000000000, ← (← pixels.items?).mapM Color.ofJson?)
  | _ => none

/-- The canvas that a value describes. -/
def ofJson (j : Json) : Except DocumentError Canvas :=
  match partsOfJson? j with
  | none => .error .malformed
  | some (side, pixels) =>
    match ofPixels? side pixels.toArray with
    | some c => .ok c
    | none => .error (.pixelCount pixels.length side)

variable {m : Type → Type} [Monad m] [Storage m]

/-- Store a canvas, in a folder that is made if it is missing. -/
def exportTo (c : Canvas) (path : Path) (format : ExportFormat) : ExceptT StoreError m Unit := do
  match path.parent? with
  | some folder => unless folder.isEmpty do Storage.makeFolders folder
  | none => pure ()
  match format with
  | .ppm => Storage.replaceFile path c.toPpm
  | .json => Document.save path c.toJson

/-- The canvas that was stored as JSON. -/
def importFrom (path : Path) : ExceptT StoreError m Canvas := Document.load ofJson path

end Canvas
end BrushScript
