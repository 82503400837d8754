import BrushScript.Store.Storage

/-!
# Transcripts

What the program prints on its two channels, how it ends, and why it refuses to go on. A job is an
action on the file system that writes a transcript and may be refused; a refusal is reported on the
error channel and makes the program fail.

What was printed before a refusal stays printed, and what was stored stays stored: the transcript is
state below the refusals, and the file system is below both. A job that ran into problems of its
script is not refused. It prints them and ends as a failure by itself.
-/

namespace BrushScript.CommandLine

/-- What was printed, on the channel for results and on the channel for errors. -/
structure Transcript where
  out : String := ""
  err : String := ""
  deriving DecidableEq, Repr

/-- How the program ends. It does not mean to crash: a number that it works with has left its range,
or it has asked for more memory than there are addresses. -/
inductive Ending where
  | success
  | failure
  | misuse
  | crash
  deriving DecidableEq, Repr

/-- The exit status. -/
def Ending.status : Ending → UInt8
  | success => 0
  | failure => 1
  | misuse => 2
  | crash => 101

/-- What is to be seen of a finished program, files apart. -/
structure Outcome where
  ending : Ending
  transcript : Transcript
  deriving DecidableEq, Repr

/-- Why a job is refused. -/
inductive Refusal where
  | script (path : Path) (e : StoreError)
  | theme (reference : String) (e : StoreError)
  | emptyCanvas
  | unknownBackground (name : String)
  | store (e : StoreError)
  deriving DecidableEq, Repr

/-- The wording of a refusal. -/
def Refusal.message : Refusal → String
  | script path e => s!"{path.text}: {e.message}"
  | theme reference e => s!"theme '{reference}': {e.message}"
  | emptyCanvas => "canvas size must be at least 1"
  | unknownBackground name => s!"unknown background color '{name}'"
  | store e => e.message

/-- Something to do on a file system that prints and may be refused. -/
abbrev Action (m : Type → Type) := ExceptT Refusal (StateT Transcript m)

namespace Action

variable {m : Type → Type} [Monad m]

/-- Print a line on the channel for results. -/
def say (line : String) : Action m Unit := modify fun t => { t with out := t.out ++ line ++ "\n" }

/-- Print a line on the channel for errors. -/
def warn (line : String) : Action m Unit := modify fun t => { t with err := t.err ++ line ++ "\n" }

/-- Print a remark on the channel for errors. -/
def remark (text : String) : Action m Unit := warn ("[PixelWallE] " ++ text)

/-- Work with files, whose problems become a refusal. -/
def onFiles {α : Type} (refuse : StoreError → Refusal) (work : ExceptT StoreError m α) :
    Action m α := do
  match ← (work.run : m _) with
  | .ok a => return a
  | .error e => throw (refuse e)

/-- Carry out an action from an empty transcript; a refusal is a failure. -/
def outcome (action : Action m Ending) : m Outcome := do
  let (result, transcript) ← action.run.run {}
  match result with
  | .ok ending => return ⟨ending, transcript⟩
  | .error why =>
    return ⟨.failure, { transcript with err := transcript.err ++ s!"Error: {why.message}\n" }⟩

end Action
end BrushScript.CommandLine
