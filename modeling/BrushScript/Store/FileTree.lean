import BrushScript.Scope
import BrushScript.Store.Storage

/-!
# File trees

A file tree is what is in the working folder: names bound to files and to further folders. It is a
file system in memory, with the rules of POSIX: a path is followed folder by folder, a slash at its
end asks for a folder, a rename needs its source, puts files on files and folders on empty folders
only, and takes everything below a folder along.

Above the working folder nothing is known. A path that leads there finds folders by steps to the
parent, and nothing by name.

A request either fails and leaves the tree as it is or does all it should. There are no permissions
and no disk that fills up, so what can fail depends on what is there, and on names and paths that
are too long or that no file can have.
-/

namespace BrushScript

/-- A file or a folder. -/
inductive Node where
  | file (content : ByteArray)
  | folder (entries : List (String × Node))

/-- The node is a file. -/
def Node.isFile : Node → Bool
  | .file _ => true
  | .folder _ => false

/-- The entries of a folder. -/
abbrev Entries := List (String × Node)

/-- The working folder. -/
structure FileTree where
  entries : Entries

namespace FileTree

/-- The empty working folder. -/
def empty : FileTree := ⟨[]⟩

/-! ## Folders by their names -/

/-- The entries of the folder that names lead to. -/
def folderIn (entries : Entries) : List String → Option Entries
  | [] => some entries
  | name :: rest =>
    match Scope.find? name entries with
    | some (.folder inner) => folderIn inner rest
    | _ => none

/-- The entries with those of one folder changed. -/
def editIn (f : Entries → Entries) (entries : Entries) : List String → Entries
  | [] => f entries
  | name :: rest =>
    match Scope.find? name entries with
    | some (.folder inner) => Scope.replace name (.folder (editIn f inner rest)) entries
    | _ => entries

/-- What stands under a name in a folder. -/
def find? (t : FileTree) (folder : List String) (name : String) : Option Node :=
  (folderIn t.entries folder).bind (Scope.find? name)

/-- The tree with a node put under a name of a folder. -/
def put (t : FileTree) (folder : List String) (name : String) (node : Node) : FileTree :=
  ⟨editIn (Scope.replace name node) t.entries folder⟩

/-- The tree without what stands under a name of a folder. -/
def erase (t : FileTree) (folder : List String) (name : String) : FileTree :=
  ⟨editIn (Scope.remove name) t.entries folder⟩

/-! ## Following paths -/

/-- Where a path leads: to a folder that it does not name, or to a name in a folder, perhaps with a
slash behind it. A folder above the working folder is unknown. -/
inductive Spot where
  | folder (names : Option (List String))
  | entry (folder : List String) (name : String) (slash : Bool)
  deriving DecidableEq, Repr

/-- The greatest number of bytes in a name. -/
def nameLimit : Nat := 255

/-- The greatest number of bytes in a path. -/
def pathLimit : Nat := 4095

/-- Follow names from a folder. Above the working folder, where there is none, only steps to the
parent lead on. -/
def follow (t : FileTree) (here : Option (List String)) : List String →
    Except FileError (Option (List String))
  | [] => .ok here
  | name :: rest =>
    match here with
    | none => if name = ".." then follow t none rest else .error .notFound
    | some names =>
      if name = ".." then
        follow t (if names = [] then none else some names.dropLast) rest
      else if nameLimit < name.utf8ByteSize then .error .nameTooLong
      else
        match t.find? names name with
        | none => .error .notFound
        | some (.file _) => .error .notAFolder
        | some (.folder _) => follow t (some (names ++ [name])) rest

/-- Follow a path up to its last name. -/
def locate (t : FileTree) (p : Path) : Except FileError Spot := do
  if p.segments.any (·.toList.contains '\x00') then .error .nulInName
  else if p.isEmpty then .error .notFound
  else if pathLimit < p.text.utf8ByteSize then .error .nameTooLong
  else
    let start : Option (List String) := if p.absolute then none else some []
    let solid := (p.segments.reverse.dropWhile (· = "")).reverse
    match solid.getLast? with
    | none => return .folder start
    | some last =>
      if Path.isIdle last ∨ last = ".." then
        return .folder (← t.follow start (solid.filter fun s => !Path.isIdle s))
      else
        match ← t.follow start (solid.dropLast.filter fun s => !Path.isIdle s) with
        | none => .error .notFound
        | some folder =>
          if nameLimit < last.utf8ByteSize then .error .nameTooLong
          else return .entry folder last (solid.length < p.segments.length)

/-- What is at a spot. -/
def nodeAt (t : FileTree) : Spot → Except FileError Node
  | .folder none => .ok (.folder [])
  | .folder (some names) =>
    match folderIn t.entries names with
    | some entries => .ok (.folder entries)
    | none => .error .notFound
  | .entry folder name slash =>
    match t.find? folder name with
    | none => .error .notFound
    | some (.file content) => if slash then .error .notAFolder else .ok (.file content)
    | some node => .ok node

/-- What is at a path. -/
def lookup (t : FileTree) (p : Path) : Except FileError Node := do t.nodeAt (← t.locate p)

/-! ## The operations of a file system -/

/-- The content of a file. -/
def read (t : FileTree) (p : Path) : Except FileError ByteArray := do
  match ← t.lookup p with
  | .file content => return content
  | .folder _ => .error .isAFolder

/-- Write a file. -/
def write (t : FileTree) (p : Path) (content : ByteArray) : Except FileError FileTree := do
  match ← t.locate p with
  | .folder _ => .error .isAFolder
  | .entry folder name slash =>
    if slash then .error .isAFolder
    else
      match t.find? folder name with
      | some (.folder _) => .error .isAFolder
      | _ => return t.put folder name (.file content)

/-- Make a folder. -/
def makeFolder (t : FileTree) (p : Path) : Except FileError FileTree := do
  match ← t.locate p with
  | .folder _ => .error .alreadyExists
  | .entry folder name _ =>
    match t.find? folder name with
    | some _ => .error .alreadyExists
    | none => return t.put folder name (.folder [])

/-- A node may take the place of what stands at the target. -/
def checkTarget : Node → Option Node → Except FileError Unit
  | _, none => .ok ()
  | .folder _, some (.file _) => .error .notAFolder
  | .folder _, some (.folder entries) => if entries.isEmpty then .ok () else .error .folderNotEmpty
  | .file _, some (.folder _) => .error .isAFolder
  | .file _, some (.file _) => .ok ()

/-- Give a file or folder another path. -/
def rename (t : FileTree) (source target : Path) : Except FileError FileTree := do
  match ← t.locate source, ← t.locate target with
  | .entry folder name slash, .entry folder' name' slash' =>
    match t.find? folder name with
    | none => .error .notFound
    | some node =>
      if node.isFile ∧ (slash ∨ slash') then .error .notAFolder
      else if folder = folder' ∧ name = name' then return t
      else if (folder ++ [name]).isPrefixOf folder' then .error .intoItself
      else if (folder' ++ [name']).isPrefixOf folder then .error .folderNotEmpty
      else
        checkTarget node (t.find? folder' name')
        return (t.erase folder name).put folder' name' node
  | _, _ => .error .busy

/-- What is at a path, if anything. -/
def kind (t : FileTree) (p : Path) : Option EntryKind :=
  match t.lookup p with
  | .ok (.file _) => some .file
  | .ok (.folder _) => some .folder
  | .error _ => none

/-- Carry out an operation that may change the tree. -/
def change (op : FileTree → Except FileError FileTree) : StateM FileTree (Except FileError Unit) :=
  fun t =>
    match op t with
    | .ok t' => (.ok (), t')
    | .error e => (.error e, t)

instance : Storage (StateM FileTree) where
  read p := fun t => (t.read p, t)
  write p content := change fun t => t.write p content
  rename source target := change fun t => t.rename source target
  makeFolder p := change fun t => t.makeFolder p
  kind p := fun t => (t.kind p, t)

/-! ## Listing -/

mutual

/-- The files and folders below a node, each under its path. -/
def listNode (path : String) : Node → List (String × Option ByteArray)
  | .file content => [(path, some content)]
  | .folder entries => (path ++ "/", none) :: listEntries (path ++ "/") entries

/-- The files and folders below some entries; the path of a folder ends in a slash. -/
def listEntries (front : String) : List (String × Node) → List (String × Option ByteArray)
  | [] => []
  | (name, node) :: rest => listNode (front ++ name) node ++ listEntries front rest

end

/-- All files, with their contents, and all folders. -/
def listing (t : FileTree) : List (String × Option ByteArray) := listEntries "" t.entries

end FileTree
end BrushScript
