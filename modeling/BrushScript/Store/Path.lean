import BrushScript.Text.Caseless

/-!
# Paths

A path is the list of its segments between slashes, and whether it starts at the root. Empty
segments and single dots mean nothing, except that a relative path keeps a dot at its very front,
and that one at the end asks for a folder. `Path.text` gives back the text that `Path.ofText` read.

So a path can be taken apart and is still the text that the user gave, which messages repeat as it
was. The name of a file, its folder and its extension are found as if the idle segments at the end
were not there: `a/b/` has the name `b`, and `a/b/..` has none. No step to the parent is ever
resolved here, since what it leads to depends on the files.
-/

namespace BrushScript

/-- A path to a file or folder. -/
structure Path where
  absolute : Bool
  segments : List String
  deriving DecidableEq, Repr

namespace Path

/-! ## Text -/

/-- The pieces of a text between slashes. -/
def splitSlashes : List Char → List (List Char)
  | [] => [[]]
  | c :: rest =>
    if c = '/' then [] :: splitSlashes rest
    else
      match splitSlashes rest with
      | [] => [[c]]
      | piece :: pieces => (c :: piece) :: pieces

/-- The path that a text writes. -/
def ofText (s : String) : Path :=
  match s.toList with
  | '/' :: rest => ⟨true, (splitSlashes rest).map String.ofList⟩
  | cs => ⟨false, (splitSlashes cs).map String.ofList⟩

/-- The path as text. -/
def text (p : Path) : String :=
  (if p.absolute then "/" else "") ++ "/".intercalate p.segments

theorem splitSlashes_ne_nil (cs : List Char) : splitSlashes cs ≠ [] := by
  cases cs with
  | nil => simp [splitSlashes]
  | cons c rest =>
    rw [splitSlashes]
    split
    · simp
    · split <;> simp

theorem intercalate_splitSlashes (cs : List Char) :
    ['/'].intercalate (splitSlashes cs) = cs := by
  induction cs with
  | nil => rfl
  | cons c rest ih =>
    rw [splitSlashes]
    match h : splitSlashes rest with
    | [] => exact absurd h (splitSlashes_ne_nil rest)
    | piece :: pieces =>
      rw [h] at ih
      split
      · next slash => simpa [List.intercalate, slash] using ih
      · cases pieces <;> simpa [List.intercalate] using ih

/-- Nothing of a text is lost in the path it writes. -/
theorem text_ofText (s : String) : (ofText s).text = s := by
  apply String.toList_injective
  have whole (cs : List Char) :
      ("/".intercalate ((splitSlashes cs).map String.ofList)).toList = cs := by
    rw [String.toList_intercalate, List.map_map]
    have same : String.toList ∘ String.ofList = id := funext fun _ => String.toList_ofList
    rw [same, List.map_id]
    exact intercalate_splitSlashes cs
  unfold ofText
  split
  · next rest h => simp [text, whole, h]
  · simp [text, whole]
/-! ## Segments -/

/-- A segment that means nothing inside a path. -/
def isIdle (segment : String) : Bool := segment = "" || segment = "."

/-- The segments that name something, steps to the parent included. -/
def names (p : Path) : List String := p.segments.filter fun s => !isIdle s

/-- The path is the empty text. -/
def isEmpty (p : Path) : Bool := !p.absolute && p.segments.all (· = "")

/-- The segments without idle ones at the end. The dot at the front of a relative path stays. -/
def trimmed (p : Path) : List String :=
  let kept := (p.segments.reverse.dropWhile isIdle).reverse
  if kept = [] ∧ ¬ p.absolute ∧ p.segments.head? = some "." then ["."] else kept

/-- The name of the file or folder, which a path that ends in a step or in nothing lacks. -/
def fileName? (p : Path) : Option String :=
  match p.trimmed.getLast? with
  | none => none
  | some name => if name = "." ∨ name = ".." then none else some name

/-- The path of the folder that holds it. -/
def parent? (p : Path) : Option Path :=
  if p.trimmed = [] then none
  else
    let front : Path := { p with segments := p.trimmed.dropLast }
    some { p with segments := front.trimmed }

/-- The path with another file name in the place of its own. -/
def withFileName (p : Path) (name : String) : Path :=
  let folder := match p.fileName? with
    | some _ => p.parent?.getD p
    | none => p
  { folder with segments := folder.segments ++ [name] }

/-- A path below another; an absolute path stands for itself. -/
def join (p q : Path) : Path :=
  if q.absolute then q
  else
    let front := if p.segments.getLast? = some "" then p.segments.dropLast else p.segments
    { p with segments := front ++ q.segments }

/-- A named entry of a folder. -/
def entry (p : Path) (name : String) : Path := p.join (ofText name)

/-! ## Extensions -/

/-- A file name apart at its last dot, if that is not at its front. -/
def splitExtension? (name : String) : Option (String × String) :=
  let back := name.toList.reverse
  let extension := back.takeWhile (· ≠ '.')
  match back.drop extension.length with
  | [] => none
  | _ :: stem =>
    if stem = [] then none
    else some (String.ofList stem.reverse, String.ofList extension.reverse)

/-- The part of the file name after its last dot. -/
def extension? (p : Path) : Option String :=
  (p.fileName?.bind splitExtension?).map (·.2)

/-- The path with another extension, put in the place of its own or added. -/
def withExtension (p : Path) (extension : String) : Path :=
  match p.fileName? with
  | none => p
  | some name =>
    let stem := (splitExtension? name).elim name (·.1)
    { p with segments := p.trimmed.dropLast ++ [stem ++ "." ++ extension] }

/-- The path and the folders that hold it, from the inside out. -/
def ancestors (p : Path) : List Path := go (p.segments.length + 1) p
where
  /-- At most a number of paths; each folder has fewer segments than what it holds. -/
  go : Nat → Path → List Path
    | 0, _ => []
    | n + 1, p =>
      match p.parent? with
      | some folder => p :: go n folder
      | none => [p]

/-! ## Places of the program's files -/

/-- The folder of the settings when none is given: in the user's configuration, in the user's home,
or else here. -/
def defaultConfig (xdgConfigHome home : Option String) : Path :=
  match xdgConfigHome.filter (· ≠ ""), home.filter (· ≠ "") with
  | some xdg, _ => (ofText xdg).entry "pixel-walle"
  | none, some home => ((ofText home).entry ".config").entry "pixel-walle"
  | none, none => ofText ".pixel-walle"

/-- The settings file of a configuration folder. -/
def settingsFile (config : Path) : Path := config.entry "settings.json"

/-- The folder of the themes of a configuration folder. -/
def themesFolder (config : Path) : Path := config.entry "themes"

/-- The extension of scripts. -/
def scriptExtension : String := "pw"

/-- The path has the extension of scripts, in any case. -/
def isScript (p : Path) : Bool := p.extension?.any fun e => Text.caselessEq e scriptExtension

end Path
end BrushScript
