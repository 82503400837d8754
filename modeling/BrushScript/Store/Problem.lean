import BrushScript.Store.Path
import BrushScript.Text.Quoted

/-!
# What can go wrong with files

Three kinds of problems: the file system refuses, a document is not what it should be, or what would
be stored makes no sense. Causes are data; the wording is in one function for each kind.

The refusals that the program tells apart, and those that a file tree can give, have constructors of
their own; any other one comes with the text of the system. The program goes by two of them itself:
`notFound` and `alreadyExists` tell it how to go on with making folders.
-/

namespace BrushScript

/-- Why the file system refuses. -/
inductive FileError where
  | notFound
  | notAFolder
  | isAFolder
  | alreadyExists
  | folderNotEmpty
  | nameTooLong
  | busy
  | intoItself
  | nulInName
  | notUtf8
  | other (message : String)
  deriving DecidableEq, Repr

/-- The wording of a refusal. -/
def FileError.message : FileError → String
  | notFound => "No such file or directory (os error 2)"
  | notAFolder => "Not a directory (os error 20)"
  | isAFolder => "Is a directory (os error 21)"
  | alreadyExists => "File exists (os error 17)"
  | folderNotEmpty => "Directory not empty (os error 39)"
  | nameTooLong => "File name too long (os error 36)"
  | busy => "Device or resource busy (os error 16)"
  | intoItself => "Invalid argument (os error 22)"
  | nulInName => "file name contained an unexpected NUL byte"
  | notUtf8 => "stream did not contain valid UTF-8"
  | other message => message

/-- Why a document is not accepted. -/
inductive DocumentError where
  /-- It is no JSON, or not of the expected form. -/
  | malformed
  /-- A canvas has another number of pixels than its side asks for. -/
  | pixelCount (found side : Nat)
  deriving DecidableEq, Repr

/-- The wording of a refused document. -/
def DocumentError.message : DocumentError → String
  | malformed => "not a document of the expected form"
  | pixelCount found side => s!"canvas has {found} pixels, expected {side} x {side}"

/-- What makes no sense to store or use. -/
inductive InvalidProject where
  | noFileName (path : Path)
  | newerSettings (version : UInt32)
  | emptyCanvas
  | noVisits
  | blankColorName (theme name : String)
  deriving DecidableEq, Repr

/-- The wording of what makes no sense. -/
def InvalidProject.message : InvalidProject → String
  | noFileName path => s!"'{path.text}' does not name a file"
  | newerSettings version =>
    s!"Settings version {version.toNat} is newer than supported version 1"
  | emptyCanvas => "canvas_size must be at least 1"
  | noVisits => "max_goto_visits must be at least 1"
  | blankColorName theme name => s!"theme '{theme}' has a blank color name " ++ Text.quoted name

/-- A problem with files. -/
inductive StoreError where
  | file (e : FileError)
  | document (e : DocumentError)
  | invalid (e : InvalidProject)
  deriving DecidableEq, Repr

/-- The line that reports a problem with files. -/
def StoreError.message : StoreError → String
  | file e => "I/O error: " ++ e.message
  | document e => "JSON error: " ++ e.message
  | invalid e => "Invalid project: " ++ e.message

end BrushScript
