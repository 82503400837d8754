import BrushScript.CommandLine.Options
import BrushScript.Integer
import BrushScript.Settings.Change

/-!
# Invocations

An invocation is what a command line asks the program to do: one job, how to print its result, and
where the settings are. The command line names a task; options that every task knows may stand
before the name or after it, and what is said after it wins.

The options of a task are a table (`Task.options`), from which both the reading and the help are
made. An option says what it does to the `Choices` made so far, and `Choices.job?` makes the job of
a task from them, or finds that its script is missing. What a task is not told, it takes from the
settings later; here nothing is known of those.

Asking for help or for the version ends the reading, whatever comes behind it. A mistake before it
comes first.
-/

namespace BrushScript.CommandLine

/-! ## Tasks and jobs -/

/-- The tasks that a command line can name. -/
inductive Task where
  | run
  | check
  | tokens
  | reference
  | colors
  | settings
  deriving DecidableEq, Repr

namespace Task

/-- All tasks, in the order in which help lists them. -/
def all : List Task := [run, check, tokens, reference, colors, settings]

/-- The word for a task. -/
def name : Task → String
  | run => "run"
  | check => "check"
  | tokens => "tokens"
  | reference => "reference"
  | colors => "colors"
  | settings => "settings"

/-- What a task does. -/
def summary : Task → String
  | run => "Run a script on a fresh canvas and write the image"
  | check => "Lex, parse and analyze a script without running it"
  | tokens => "Dump the token stream"
  | reference => "List every command and query"
  | colors => "List every color name a script can use"
  | settings => "Show or update stored settings"

/-- The task is about a script. -/
def takesScript : Task → Bool
  | run | check | tokens => true
  | reference | colors | settings => false

/-- The task of a word. -/
def ofName? (word : String) : Option Task := all.find? fun t => t.name = word

end Task

/-- What a run may be told; what it is not told comes from the settings. -/
structure RunChoices where
  size : Option UInt64 := none
  background : Option String := none
  theme : Option String := none
  out : Option Path := none
  format : Option ExportFormat := none
  deriving DecidableEq, Repr

/-- A task with all it needs. -/
inductive Job where
  | run (script : Path) (choices : RunChoices)
  | check (script : Path)
  | tokens (script : Path)
  | reference
  | colors (theme : Option String)
  | settings (change : Settings.Change)
  deriving DecidableEq, Repr

/-- What a command line asks for. -/
structure Invocation where
  job : Job
  json : Bool
  config : Option Path
  deriving DecidableEq, Repr

/-! ## Choices -/

/-- All that the options and operands of a command line choose. -/
structure Choices where
  json : Bool := false
  config : Option Path := none
  script : Option Path := none
  run : RunChoices := {}
  change : Settings.Change := {}
  deriving DecidableEq, Repr

namespace Choices

/-- The choices made behind the name of a task, completed by those made before it. -/
def after (before later : Choices) : Choices :=
  { later with json := before.json || later.json, config := later.config <|> before.config }

/-- The job of a task under some choices. A script must be there for a task about one. -/
def job? (c : Choices) : Task → Option Job
  | .run => c.script.map fun script => .run script c.run
  | .check => c.script.map .check
  | .tokens => c.script.map .tokens
  | .reference => some .reference
  | .colors => some (.colors c.run.theme)
  | .settings => some (.settings c.change)

end Choices

/-! ## Values -/

/-- A path as a value, which may not be empty. -/
def pathValue? (s : String) : Option Path := if s = "" then none else some (Path.ofText s)

/-- A number of 64 bits as a value. -/
def longWordValue? (s : String) : Option UInt64 :=
  ((Integer.natural? s).filter (· < 0x10000000000000000)).map UInt64.ofNat

/-- A number of 32 bits as a value, with or without a sign. -/
def wordValue? (s : String) : Option UInt32 :=
  (Integer.decimal? s).bind fun n =>
    if 0 ≤ n.toInt ∧ n.toInt < 0x100000000 then some (UInt32.ofNat n.toInt.toNat) else none

/-! ## Options -/

/-- An option with a value of some type. -/
def valued {α : Type} (name summary : String) (read : String → Option α)
    (choose : α → Choices → Choices) : OptionSpec Choices :=
  { name, summary, meaning := .value fun s c => (read s).map fun a => choose a c }

/-- The options that every task knows. -/
def generalOptions : List (OptionSpec Choices) := [
  valued "config-dir" "Config directory override (settings.json, themes/)" pathValue?
    fun p c => { c with config := some p },
  { name := "json"
    summary := "Output raw JSON instead of formatted text"
    meaning := .switch fun c => { c with json := true } }
]

/-- The choice of a theme. -/
def themeOption (summary : String) : OptionSpec Choices :=
  valued "theme" summary some fun s c => { c with run.theme := some s }

/-- The options of a task alone. -/
def Task.ownOptions : Task → List (OptionSpec Choices)
  | run => [
    valued "size" "Canvas side length" longWordValue?
      fun n c => { c with run.size := some n },
    valued "background" "Background color name or #rrggbb" some
      fun s c => { c with run.background := some s },
    themeOption "Theme file, or theme name under the config dir's themes/",
    valued "out" "Output file (default: next to the script)" pathValue?
      fun p c => { c with run.out := some p },
    { valued "format" "" ExportFormat.ofName? fun f c => { c with run.format := some f } with
      values := ExportFormat.all.map fun f => (f.name, f.summary) }]
  | check | tokens | reference => []
  | colors => [themeOption ""]
  | settings => [
    valued "set-size" "" longWordValue?
      fun n c => { c with change.canvasSize := some n },
    valued "set-background" "" some
      fun s c => { c with change.background := some s },
    valued "set-theme" "" pathValue?
      fun p c => { c with change.theme := some p.text },
    valued "set-max-goto-visits" "" wordValue?
      fun n c => { c with change.maxGoToVisits := some n }]

/-- All options of a task. -/
def Task.options (t : Task) : List (OptionSpec Choices) := t.ownOptions ++ generalOptions

/-- Take an operand as the script, if none was given before. -/
def takeScript (word : String) (c : Choices) : Option Choices :=
  match c.script with
  | some _ => none
  | none => (pathValue? word).map fun p => { c with script := some p }

/-- The part of a command line before the name of a task. -/
def front : Part Choices := ⟨generalOptions, none, true⟩

/-- The part of a command line behind the name of a task. -/
def Task.part (t : Task) : Part Choices :=
  ⟨t.options, some (if t.takesScript then takeScript else fun _ _ => none), false⟩

/-! ## Command lines -/

/-- What help can be about: the program, one of its tasks, or the asking for help itself. -/
inductive Topic where
  | program
  | task (t : Task)
  | help
  deriving DecidableEq, Repr

/-- The topic of a word behind the word `help`. -/
def Topic.ofName? (word : String) : Option Topic :=
  if word = "help" then some .help else (Task.ofName? word).map .task

/-- What a command line is for. -/
inductive Request where
  | invocation (i : Invocation)
  | help (about : Topic) (detail : Detail)
  | version
  deriving DecidableEq, Repr

namespace Request

/-- The request that an interruption makes of a part of the command line. -/
def ofInterruption (about : Topic) : Interruption → Except UsageError Request
  | .misuse e => .error e
  | .help detail => .ok (.help about detail)
  | .version => .ok .version

/-- The request of the words behind the word `help`: at most one topic, with all there is to say. -/
def ofHelp : List String → Except UsageError Request
  | [] => .ok (.help .program .full)
  | [word] =>
    match Topic.ofName? word with
    | some topic => .ok (.help topic .full)
    | none => .error (.unknownTask word)
  | _ :: word :: _ => .error (.unknownTask word)

/-- The request of the words behind the name of a task. -/
def ofTask (t : Task) (before : Choices) (words : List String) : Except UsageError Request :=
  match t.part.read ⟨{}, []⟩ words with
  | .error e => ofInterruption (.task t) e
  | .ok (reading, _) =>
    let choices := before.after reading.choices
    match choices.job? t with
    | some job => .ok (.invocation ⟨job, choices.json, choices.config⟩)
    | none => .error (.missingOperand "SCRIPT")

/-- The request of a command line. -/
def ofArguments (words : List String) : Except UsageError Request :=
  match front.read ⟨{}, []⟩ words with
  | .error e => ofInterruption .program e
  | .ok (_, []) => .error .missingTask
  | .ok (before, word :: rest) =>
    match Task.ofName? word with
    | some t => ofTask t before.choices rest
    | none => if word = "help" then ofHelp rest else .error (.unknownTask word)

end Request
end BrushScript.CommandLine
