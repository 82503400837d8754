import BrushScript.Canvas.Document
import BrushScript.Machine.Run

/-!
# Settings

What a user has chosen for all runs: the side and background of a fresh canvas, a theme, the limit
on jumps and the format of pictures. Settings are stored as JSON in the configuration folder. A file
that lacks a field is read with the field's default, but for the version, which has none; a file
that cannot be read counts as none.

Settings with a newer version, without a canvas or without a single visit of a jump are of no use to
any run. They are neither stored nor used (`problem?`), but they are read: which of the three it is
can only be told from the values.
-/

namespace BrushScript

/-- The choices for all runs. -/
structure Settings where
  version : UInt32
  canvasSize : UInt64
  background : String
  theme : Option String
  maxGoToVisits : UInt32
  exportFormat : ExportFormat
  deriving DecidableEq, Repr

namespace Settings

/-- The settings before anything was chosen. -/
def default : Settings where
  version := 1
  canvasSize := 32
  background := "white"
  theme := none
  maxGoToVisits := defaultMaxGoToVisits
  exportFormat := .ppm

/-- The first reason why no run could use the settings. -/
def problem? (s : Settings) : Option InvalidProject :=
  if default.version < s.version then some (.newerSettings s.version)
  else if s.canvasSize = 0 then some .emptyCanvas
  else if s.maxGoToVisits = 0 then some .noVisits
  else none

/-! ## As JSON -/

/-- Settings as JSON. -/
def toJson (s : Settings) : Json :=
  .record [("version", .int s.version.toNat), ("canvas_size", .int s.canvasSize.toNat),
    ("background", .text s.background), ("theme", .option Json.text s.theme),
    ("max_goto_visits", .int s.maxGoToVisits.toNat), ("export_format", .text s.exportFormat.name)]

/-- A number of 32 bits. -/
def word? (j : Json) : Option UInt32 := (j.natBelow? 0x100000000).map UInt32.ofNat

/-- A number of 64 bits. -/
def longWord? (j : Json) : Option UInt64 := (j.natBelow? 0x10000000000000000).map UInt64.ofNat

/-- A format: its word, or an object with nothing but its word, bound to nothing. -/
def format? : Json → Option ExportFormat
  | .string (some name) => ExportFormat.ofName? name
  | .object [(some name, .null)] => ExportFormat.ofName? name
  | _ => none

/-- The names of the fields, in the order in which an array gives them. -/
def fieldNames : List String :=
  ["version", "canvas_size", "background", "theme", "max_goto_visits", "export_format"]

/-- The settings that a value describes. Only the version may not be missing. -/
def ofJson? (j : Json) : Option Settings := do
  match ← j.fields? fieldNames with
  | [some version, canvasSize, background, theme, maxGoToVisits, exportFormat] =>
    return {
      version := ← word? version
      canvasSize := ← Json.orDefault longWord? default.canvasSize canvasSize
      background := ← Json.orDefault Json.text? default.background background
      theme := ← Json.orDefault Json.optionalText? default.theme theme
      maxGoToVisits := ← Json.orDefault word? default.maxGoToVisits maxGoToVisits
      exportFormat := ← Json.orDefault format? default.exportFormat exportFormat }
  | _ => none

/-! ## In the configuration folder -/

variable {m : Type → Type} [Monad m] [Storage m]

/-- The stored settings, if there are any that can be read. -/
def load (config : Path) : m (Option Settings) := do
  match ← (Document.load (Document.ofOption ofJson?) config.settingsFile : ExceptT _ m _).run with
  | .ok s => return some s
  | .error _ => return none

/-- Store settings that a run could use. -/
def save (config : Path) (s : Settings) : ExceptT StoreError m Unit := do
  match s.problem? with
  | some problem => throw (.invalid problem)
  | none =>
    Storage.makeFolders config
    Document.save config.settingsFile s.toJson

end Settings
end BrushScript
