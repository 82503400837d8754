import BrushScript.Canvas.Document
import BrushScript.Theme

/-!
# Stored themes

A theme is stored as its name and an object of colours, whose order is that of the legend. A colour
name that is blank could never be used, so a theme with one is refused.

Names are taken from the file as they stand: with the blanks around them, and apart from each other
if they differ in case. A reference to a theme may be a path or a name. The path is tried first, and
only a file counts there, so a folder with the name of a theme does not hide the theme.
-/

namespace BrushScript.Theme

/-- The colours of a stored theme, in order; a repeated name keeps its first place and takes the
last colour. -/
def colorsOfJson? (j : Json) : Option ColorTable := do
  let entries ← (← j.members?).mapM fun m => (Color.ofJson? m.2).map fun color => (m.1, color)
  return ColorTable.ofList entries

/-- The theme that a value describes; the colours may be missing. -/
def ofJson? (j : Json) : Option Theme := do
  match ← j.fields? ["name", "colors"] with
  | [some name, colors] => return ⟨← name.text?, ← Json.orDefault colorsOfJson? [] colors⟩
  | _ => none

variable {m : Type → Type} [Monad m] [Storage m]

/-- The theme of a file. -/
def load (path : Path) : ExceptT StoreError m Theme := do
  let theme ← Document.load (Document.ofOption ofJson?) path
  match theme.blankName? with
  | some name => throw (.invalid (.blankColorName theme.name name))
  | none => return theme

/-- The file that a reference to a theme means: the file of that path, if there is one, and else the
theme of that name in the configuration folder. -/
def locate (config : Path) (reference : String) : m Path := do
  let direct := Path.ofText reference
  if (← Storage.kind direct) = some .file then return direct
  else return config.themesFolder.entry (reference ++ ".json")

end BrushScript.Theme
