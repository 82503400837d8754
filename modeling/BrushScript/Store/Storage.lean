import BrushScript.Store.Problem

/-!
# Storage

What the program needs of a file system: read, write, rename, make a folder, and ask what is at a
path. On top of it stands the one way in which files are replaced. The new content goes to a sibling
with `.tmp` at its name, the old file moves to a sibling with `.bak`, and then the new one takes its
place; so at every moment the old or the new content is there under some name.

Whether there is something to move away is asked without a look at what it is, and whether moving it
worked is not asked at all: if the old file cannot be moved, the new one takes its place even so.
But for a path without a file name, only writing the new content and giving it its name can fail,
and what was done before stays done.

A folder is made with those that hold it. The missing ones are found from the inside out, each by
trying to make it, and then they are made from the outside in.
-/

namespace BrushScript

/-- What can be at a path. -/
inductive EntryKind where
  | file
  | folder
  deriving DecidableEq, Repr

/-- A file system. -/
class Storage (m : Type → Type) where
  /-- The content of a file. -/
  read : Path → m (Except FileError ByteArray)
  /-- Write a file, which is made if it is missing and emptied if not. -/
  write : Path → ByteArray → m (Except FileError Unit)
  /-- Give a file or folder another path, in the place of what is there. -/
  rename : Path → Path → m (Except FileError Unit)
  /-- Make a folder. -/
  makeFolder : Path → m (Except FileError Unit)
  /-- What is at a path, if anything. -/
  kind : Path → m (Option EntryKind)

namespace Storage

variable {m : Type → Type} [Monad m] [Storage m]

/-- Go on with the result of a request to the file system. -/
def attempt {α : Type} (request : m (Except FileError α)) : ExceptT StoreError m α :=
  ExceptT.mk do return (← request).mapError .file

/-! ## Texts -/

/-- The text of a file, which must be UTF-8. -/
def readText (path : Path) : ExceptT StoreError m String := do
  let content ← attempt (read path)
  match String.fromUTF8? content with
  | some s => return s
  | none => throw (.file .notUtf8)

/-- The text of a script, without a byte-order mark. -/
def loadScript (path : Path) : ExceptT StoreError m String := do
  let s ← readText path
  match s.toList with
  | '\ufeff' :: rest => return String.ofList rest
  | _ => return s

/-! ## Replacing a file -/

/-- Write a file through a sibling, and keep what was there as another. -/
def replaceFile (path : Path) (content : ByteArray) : ExceptT StoreError m Unit := do
  match path.fileName? with
  | none => throw (.invalid (.noFileName path))
  | some name =>
    let fresh := path.withFileName (name ++ ".tmp")
    let backup := path.withFileName (name ++ ".bak")
    attempt (write fresh content)
    if (← (kind path : m _)).isSome then
      let _ ← (rename path backup : m _)
    attempt (rename fresh path)

/-! ## Making folders -/

/-- The folders of a list that are missing, from the inside out: all up to the first that is there
or can be made. -/
def missingFolders : List Path → ExceptT StoreError m (List Path)
  | [] => return []
  | p :: outer => do
    if p.isEmpty then return []
    match ← (makeFolder p : m _) with
    | .ok _ => return []
    | .error .notFound => return p :: (← missingFolders outer)
    | .error .alreadyExists =>
      if (← (kind p : m _)) = some .folder then return [] else throw (.file .alreadyExists)
    | .error e => throw (.file e)

/-- Make a folder and the folders that hold it, where they are missing. -/
def makeFolders (path : Path) : ExceptT StoreError m Unit := do
  for p in (← missingFolders path.ancestors).reverse do
    match ← (makeFolder p : m _) with
    | .ok _ => pure ()
    | .error .alreadyExists =>
      unless (← (kind p : m _)) = some .folder do throw (.file .alreadyExists)
    | .error e => throw (.file e)

end Storage
end BrushScript
