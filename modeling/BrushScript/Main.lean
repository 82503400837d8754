import BrushScript.CommandLine.Perform

/-!
# The program

The command line on the file system of the machine. Every decision is in the library; here its
requests are carried out, and what it prints is printed.

The five requests of `Storage` are five calls to the system. What the system says about a call that
failed is brought to the problems that the library knows by the number of the error, and any other
one keeps its text. Both channels are written when all is done, the one for errors first.
-/

namespace BrushScript

/-- The number of a problem that the system reports, perhaps negated, and its text. -/
def systemProblem : IO.Error → UInt32 × String
  | .noFileOrDirectory _ code text | .alreadyExists _ code text | .invalidArgument _ code text
  | .permissionDenied _ code text | .resourceExhausted _ code text
  | .inappropriateType _ code text | .noSuchThing _ code text | .interrupted _ code text
  | .otherError code text | .resourceBusy code text | .resourceVanished code text
  | .unsupportedOperation code text | .hardwareFault code text
  | .unsatisfiedConstraints code text | .illegalOperation code text | .protocolError code text
  | .timeExpired code text => (code, text)
  | .unexpectedEof => (0, "unexpected end of file")
  | .userError text => (0, text)

/-- The problem that the system reports. -/
def FileError.ofIO (e : IO.Error) : FileError :=
  let (code, text) := systemProblem e
  match code.toInt32.toInt.natAbs with
  | 2 => .notFound
  | 16 => .busy
  | 17 => .alreadyExists
  | 20 => .notAFolder
  | 21 => .isAFolder
  | 22 => .intoItself
  | 36 => .nameTooLong
  | 39 => .folderNotEmpty
  | n => .other s!"{text.capitalize} (os error {n})"

/-- A request to the system, and how it came out. -/
def request {α : Type} (work : IO α) : IO (Except FileError α) := do
  try return .ok (← work)
  catch e => return .error (.ofIO e)

/-- What is at a path of the machine, if anything. -/
def entryKind (path : Path) : IO (Option EntryKind) := do
  try
    let place ← IO.FS.realPath path.text
    return some (if ← place.isDir then .folder else .file)
  catch _ => return none

instance : Storage IO where
  read path := request (IO.FS.readBinFile path.text)
  write path content := request (IO.FS.writeBinFile path.text content)
  rename source target := request (IO.FS.rename source.text target.text)
  makeFolder path := request (IO.FS.createDir path.text)
  kind := entryKind

end BrushScript

open BrushScript

/-- Do what the command line asks for, and print what it prints. -/
def main (words : List String) : IO UInt32 := do
  let env : CommandLine.Environment := ⟨← IO.getEnv "XDG_CONFIG_HOME", ← IO.getEnv "HOME"⟩
  let outcome ← CommandLine.answer env words
  let out ← IO.getStdout
  let err ← IO.getStderr
  err.putStr outcome.transcript.err
  out.putStr outcome.transcript.out
  out.flush
  return outcome.ending.status.toUInt32
