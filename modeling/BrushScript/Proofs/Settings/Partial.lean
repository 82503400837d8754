import BrushScript.Proofs.Settings.Saving

/-!
# Settings with missing fields

A settings file may give some fields and leave out the others, in any order and among members of any
other names. What it gives is what `Holds` says, and with the version among it the file is loaded as
`Given.settings`: the given fields, and the others as in the default. The version has no default: a
file without it is not loaded at all (`load_given`, `versionless_not_loaded`).

`Gives` is about one field and any list of members: none has the name of the field, or just one has
it and its value means something. It does not fix where in the list the member stands, so an order
of the fields is never assumed. A name that occurs twice is no case of it, as such a file is not
decoded.

The texts of the file are those of the grammar of JSON, so blanks and escapes may be chosen freely
as well.
-/

namespace BrushScript.Settings

open Json (WritesDocument)

/-! ## What a file gives

What a file gives is said on the members of its object, without a word on how they are found. A
theme may be given as none, which is not the same as not given.
-/

/-- The fields of settings, each given or not. -/
structure Given where
  version : Option UInt32
  canvasSize : Option UInt64
  background : Option String
  theme : Option (Option String)
  maxGoToVisits : Option UInt32
  exportFormat : Option ExportFormat

/-- The settings with the given fields, and the others as in the default. -/
def Given.settings (g : Given) : Settings where
  version := g.version.getD default.version
  canvasSize := g.canvasSize.getD default.canvasSize
  background := g.background.getD default.background
  theme := g.theme.getD default.theme
  maxGoToVisits := g.maxGoToVisits.getD default.maxGoToVisits
  exportFormat := g.exportFormat.getD default.exportFormat

/-- The members of an object. -/
abbrev Members := List (Option String × Json)

/-- What the members give for a field: nothing if none has its name, and else what the value of the
only one means. -/
inductive Gives {α : Type} (means : α → Json → Prop) (name : String) :
    Members → Option α → Prop
  | nothing {members : Members} (absent : ∀ m ∈ members, m.1 ≠ some name) :
    Gives means name members none
  | value {a : α} {j : Json} (before behind : Members)
      (single : ∀ m ∈ before ++ behind, m.1 ≠ some name) (meant : means a j) :
    Gives means name (before ++ (some name, j) :: behind) (some a)

/-- The members have names that are texts, and give the fields. What other members there are, and in
which order they all come, does not matter. -/
structure Holds (members : Members) (g : Given) : Prop where
  named : ∀ m ∈ members, m.1.isSome = true
  version : Gives (fun n j => j = .int n.toNat) "version" members g.version
  canvasSize : Gives (fun n j => j = .int n.toNat) "canvas_size" members g.canvasSize
  background : Gives (fun s j => j = .text s) "background" members g.background
  theme : Gives (fun t j => j = .option Json.text t) "theme" members g.theme
  maxGoToVisits : Gives (fun n j => j = .int n.toNat) "max_goto_visits" members g.maxGoToVisits
  exportFormat : Gives (fun f j => j = .text f.name ∨ j = .object [(some f.name, .null)])
    "export_format" members g.exportFormat

/-! ## One field

For every field the same two steps: to find the value among the members, and to read it or to take
the default.
-/

section

variable {α : Type} {means : α → Json → Prop} {name : String} {members : Members} {a : Option α}

theorem valuesOf_eq_nil (absent : ∀ m ∈ members, m.1 ≠ some name) :
    Json.valuesOf name members = [] := by
  refine List.filterMap_eq_nil_iff.mpr fun m mem => if_neg (absent m mem)

theorem valuesOf_single {j : Json} {before behind : Members}
    (single : ∀ m ∈ before ++ behind, m.1 ≠ some name) :
    Json.valuesOf name (before ++ (some name, j) :: behind) = [j] := by
  obtain ⟨front, back⟩ := List.forall_mem_append.mp single
  have first : Json.valuesOf name before = [] := valuesOf_eq_nil front
  have last : Json.valuesOf name behind = [] := valuesOf_eq_nil back
  unfold Json.valuesOf at *
  -- the members before it and behind it have other names
  rw [List.filterMap_append, first, List.nil_append, List.filterMap_cons, if_pos rfl, last]

/-- A field is read as what it is given, or as any default if it is not given. -/
theorem Gives.read (gives : Gives means name members a) (read : Json → Option α)
    (reads : ∀ a j, means a j → read j = some a) :
    ∃ found, Json.field? members name = some found ∧ found.isSome = a.isSome ∧
      ∀ d, Json.orDefault read d found = some (a.getD d) := by
  cases gives with
  | nothing absent =>
    refine ⟨none, ?_, rfl, fun d => rfl⟩
    rw [Json.field?, valuesOf_eq_nil absent]
  | @value a j before behind single meant =>
    refine ⟨some j, ?_, rfl, fun d => reads a j meant⟩
    rw [Json.field?, valuesOf_single single]

end

/-! ## All fields

Only for the version does it matter whether it was found; with any of the others missing, its
default is read.
-/

theorem format?_of_means (f : ExportFormat) (j : Json)
    (meant : j = .text f.name ∨ j = .object [(some f.name, .null)]) : format? j = some f := by
  rcases meant with rfl | rfl <;> cases f <;> rfl

theorem ofJson?_object {members : Members} {g : Given} (holds : Holds members g) :
    ofJson? (.object members) = g.version.map fun _ => g.settings := by
  -- of the version alone it matters whether it was found: no default stands in for it
  obtain ⟨version, foundVersion, given, readVersion⟩ := holds.version.read word?
    fun n j meant => by rw [meant, word?_int]
  obtain ⟨size, foundSize, -, readSize⟩ := holds.canvasSize.read longWord?
    fun n j meant => by rw [meant, longWord?_int]
  obtain ⟨background, foundBackground, -, readBackground⟩ :=
    holds.background.read Json.text? fun s j meant => by rw [meant, text?_text]
  obtain ⟨theme, foundTheme, -, readTheme⟩ := holds.theme.read Json.optionalText?
    fun t j meant => by rw [meant, optionalText?_option]
  obtain ⟨visits, foundVisits, -, readVisits⟩ := holds.maxGoToVisits.read word?
    fun n j meant => by rw [meant, word?_int]
  obtain ⟨format, foundFormat, -, readFormat⟩ :=
    holds.exportFormat.read format? format?_of_means
  have fields : (Json.object members).fields? fieldNames =
      some [version, size, background, theme, visits, format] := by
    rw [Json.fields?, if_pos (List.all_eq_true.mpr holds.named), fieldNames]
    simp [foundVersion, foundSize, foundBackground, foundTheme, foundVisits, foundFormat]
  rw [ofJson?, fields]
  cases version with
  | none => -- without a version the document is not decoded
    have absent : g.version.isSome = false := given.symm
    have unversioned : g.version = none :=
      Option.isNone_iff_eq_none.mp (Option.isSome_eq_false_iff.mp absent)
    rw [unversioned]
    rfl
  | some j =>
    obtain ⟨n, same⟩ := Option.isSome_iff_exists.mp given.symm
    have readWord : word? j = some n := (readVersion n).trans (by rw [same, Option.getD_some])
    simp [readWord, readSize, readBackground, readTheme, readVisits, readFormat, Given.settings,
      same]

/-! ## Loading

From the fields to the file: the document is parsed from the text, and the text is read from the
tree. What cannot be loaded counts as no settings.
-/

variable {config : Path} {tree : FileTree} {s : String} {members : Members} {g : Given}

theorem parse_eq (written : WritesDocument (.object members) s) (holds : Holds members g) :
    (Document.parse (Document.ofOption ofJson?) s).toOption =
      g.version.map fun _ => g.settings := by
  rw [Document.parse, written.read?]
  dsimp only
  rw [Document.ofOption, ofJson?_object holds]
  cases g.version <;> rfl

theorem run_load_of_content (content : tree.read config.settingsFile = .ok s.toUTF8) :
    (load config : StateM FileTree (Option Settings)).run tree =
      ((Document.parse (Document.ofOption ofJson?) s).toOption, tree) := by
  rw [run_load_eq, Work.run_load_eq content, Work.described_toUTF8]
  cases Document.parse (Document.ofOption ofJson?) s <;> rfl

/-- A settings file that gives some fields is loaded as these and the defaults of the others, if the
version is among them. Otherwise it counts as no settings. -/
theorem load_given (content : tree.read config.settingsFile = .ok s.toUTF8)
    (written : WritesDocument (.object members) s) (holds : Holds members g) :
    (load config : StateM FileTree (Option Settings)).run tree =
      (g.version.map fun _ => g.settings, tree) := by
  rw [run_load_of_content content, parse_eq written holds]

/-- A configuration folder `c` with a settings file. -/
def configured (s : String) : FileTree := ⟨[("c", .folder [("settings.json", .file s.toUTF8)])]⟩

/-- A file that gives the version and the limit on jumps, and has a note. -/
def noted : Json :=
  .record [("note", .text "-"), ("max_goto_visits", .int 5), ("version", .int 1)]

theorem load_given_noted :
    (load (.ofText "c") : StateM FileTree (Option Settings)).run (configured noted.pretty) =
      (some { default with maxGoToVisits := 5 }, configured noted.pretty) := by
  have plain : noted.Plain := .record fun m mem => by
    simp only [List.mem_cons, List.not_mem_nil, or_false] at mem
    obtain rfl | rfl | rfl := mem
    · exact .text _
    · exact .int _
    · exact .int _
  have holds : Holds [(some "note", .text "-"), (some "max_goto_visits", .int 5),
      (some "version", .int 1)] ⟨some 1, none, none, none, some 5, none⟩ := by
    constructor
    · simp
    · exact .value [(some "note", .text "-"), (some "max_goto_visits", .int 5)] [] (by simp) rfl
    · exact .nothing (by simp)
    · exact .nothing (by simp)
    · exact .nothing (by simp)
    · exact .value [(some "note", .text "-")] [(some "version", .int 1)] (by simp) rfl
    · exact .nothing (by simp)
  exact load_given rfl plain.writesDocument holds

/-- A file that gives the side of a canvas and no version. -/
def versionless : Json := .record [("canvas_size", .int 10)]

/-- What it gives. -/
def sized : Given := ⟨none, some 10, none, none, none, none⟩

/-- A file without a version is not loaded, although it is a document that gives a field. -/
theorem versionless_not_loaded :
    WritesDocument versionless versionless.pretty ∧ Holds [(some "canvas_size", .int 10)] sized ∧
      sized.settings = { default with canvasSize := 10 } ∧
      (load (.ofText "c") : StateM FileTree (Option Settings)).run
          (configured versionless.pretty) = (none, configured versionless.pretty) := by
  have plain : versionless.Plain := .record fun m mem => by
    obtain rfl := List.mem_singleton.mp mem
    exact .int _
  have holds : Holds [(some "canvas_size", .int 10)] sized := by
    constructor
    · simp
    · exact .nothing (by simp)
    · exact .value [] [] (by simp) rfl
    · exact .nothing (by simp)
    · exact .nothing (by simp)
    · exact .nothing (by simp)
    · exact .nothing (by simp)
  refine ⟨plain.writesDocument, holds, rfl, ?_⟩
  rw [run_load_of_content rfl, parse_eq plain.writesDocument holds]
  rfl

end BrushScript.Settings
