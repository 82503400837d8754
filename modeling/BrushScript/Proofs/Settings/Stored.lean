import BrushScript.Proofs.Json.Value
import BrushScript.Settings

/-!
# Stored settings

Every settings come back from the document they are stored as, whatever their background and theme
are called (`ofJson?_toJson`, `parse_pretty`).

Numbers are stored as integers, which are read back if they fit in the type of the field, as they
do. A theme that is missing is stored as `null`. The printed document is one of the grammar that the
reader is known to read, so nothing depends on which characters the texts hold.
-/

namespace BrushScript.Settings

/-! ## Fields

One lemma for each type of a field, and one that finds the fields in the document.
-/

theorem word?_int (n : UInt32) : word? (.int n.toNat) = some n := by
  rw [word?, Json.natBelow?_int n.toNat_lt]
  exact congrArg some UInt32.ofNat_toNat

theorem longWord?_int (n : UInt64) : longWord? (.int n.toNat) = some n := by
  rw [longWord?, Json.natBelow?_int n.toNat_lt]
  exact congrArg some UInt64.ofNat_toNat

theorem text?_text (s : String) : Json.text? (.text s) = some s := rfl

theorem optionalText?_option (s : Option String) :
    Json.optionalText? (Json.option Json.text s) = some s := by
  cases s <;> rfl

theorem format?_text (f : ExportFormat) : format? (.text f.name) = some f := by
  cases f <;> rfl

/-- Each name has a field of its own. -/
theorem fields?_toJson (s : Settings) : s.toJson.fields? fieldNames =
    some [some (.int s.version.toNat), some (.int s.canvasSize.toNat), some (.text s.background),
      some (.option Json.text s.theme), some (.int s.maxGoToVisits.toNat),
      some (.text s.exportFormat.name)] := by
  rfl

/-- Settings come back from their document. -/
theorem ofJson?_toJson (s : Settings) : ofJson? s.toJson = some s := by
  rw [ofJson?, fields?_toJson]
  simp [Json.orDefault, word?_int, longWord?_int, text?_text, optionalText?_option, format?_text]

theorem plain_toJson (s : Settings) : s.toJson.Plain := by
  refine .record fun m mem => ?_
  simp only [List.mem_cons, List.not_mem_nil, or_false] at mem
  obtain rfl | rfl | rfl | rfl | rfl | rfl := mem
  · exact .int _
  · exact .int _
  · exact .text _
  · exact .option .text
  · exact .int _
  · exact .text _

/-- Settings come back from the text that they are stored as. -/
theorem parse_pretty (s : Settings) :
    Document.parse (Document.ofOption ofJson?) s.toJson.pretty = .ok s := by
  rw [Document.parse, s.plain_toJson.read?_pretty]
  dsimp only
  rw [Document.ofOption, ofJson?_toJson]
  rfl

end BrushScript.Settings
