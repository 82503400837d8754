import BrushScript.CommandLine.Help
import BrushScript.CommandLine.Listing
import BrushScript.CommandLine.Transcript

/-!
# Performing jobs

What the program does for a command line, on any file system: it loads the settings, does the job
and prints the result. Settings that no run could use are refused before any job.

A run can ask for more than the machine has. The pixels of its canvas may be too many to be
addressed, and the counter of a jump may be full before the limit is passed. Neither is an error the
program looks for: it crashes in the middle, with status 101, and stores nothing. That is the
program built to stop at overflows, as its tests are run. Built without these checks it would go on
with what is left of the number, and nothing is said about that here.
-/

namespace BrushScript.CommandLine

open Syntax

variable {m : Type → Type} [Monad m] [Storage m]

/-! ## Shared steps -/

/-- The text of a script; a file without the extension of scripts is remarked on. -/
def readScript (path : Path) : Action m String := do
  unless path.isScript do
    Action.remark s!"Warning: '{path.text}' does not have the .{Path.scriptExtension} extension"
  Action.onFiles (.script path) (Storage.loadScript path)

/-- The theme of a reference, if there is one. -/
def readTheme (config : Path) : Option String → Action m (Option Theme)
  | none => return none
  | some reference => do
    let path ← (Theme.locate config reference : m _)
    let theme ← Action.onFiles (.theme reference) (Theme.load path)
    Action.remark s!"Loaded theme '{theme.name}' ({theme.colors.length} colors)"
    return some theme

/-- Print a result as JSON. -/
def sayJson (j : Json) : Action m Unit := Action.say (jsonText j)

/-! ## Jobs -/

/-- The pixels of a canvas can be addressed: they take four bytes each, and less than 2^63 bytes in
all. -/
def Addressable (side : Nat) : Prop := 4 * (side * side) < 0x8000000000000000

instance : DecidablePred Addressable := fun _ => inferInstanceAs (Decidable (_ < _))

theorem Addressable.side_lt {side : Nat} (h : Addressable side) : side < 0x100000000 := by
  refine Nat.lt_of_not_le fun large => ?_
  have := Nat.mul_le_mul large large
  unfold Addressable at h
  omega

/-- The canvas to draw on, if there can be one. -/
def freshCanvas? (size : UInt64) (background : Color) : Option Canvas :=
  if h : Addressable size.toNat then some (.filled size.toNat background h.side_lt) else none

/-- Report that a script has problems, so that nothing was drawn. -/
def reportProblems (json : Bool) (problems : List String) : Action m Ending := do
  if json then sayJson (failureJson problems none)
  else
    problems.forM Action.warn
    Action.remark s!"{problems.length} error(s), nothing drawn"
  return .failure

/-- Report that a run stopped early, with what was drawn until then. -/
def reportStop (json : Bool) (out : Path) (message : String) : Action m Ending := do
  if json then sayJson (failureJson [message] (some out))
  else
    Action.warn message
    Action.remark s!"Partial canvas written to {out.text}"
  return .failure

/-- Report a finished run. -/
def reportSuccess (json : Bool) (side : Nat) (out : Path) (r : Report) : Action m Ending := do
  if json then sayJson (successJson r out)
  else
    Action.say (reportLine side r)
    Action.say s!"Wrote {out.text}"
  return .success

/-- Run a script on a fresh canvas and store the picture, also that of a run which a fault stops.
Without a canvas, or with a counter that cannot count on, the program crashes and stores nothing. -/
def performRun (config : Path) (settings : Settings) (json : Bool) (script : Path)
    (c : RunChoices) : Action m Ending := do
  let source ← readScript script
  let theme ← readTheme config (c.theme <|> settings.theme)
  let size := c.size.getD settings.canvasSize
  if size = 0 then throw .emptyCanvas
  let backgroundName := c.background.getD settings.background
  match Theme.resolveBackground theme backgroundName with
  | none => throw (.unknownBackground backgroundName)
  | some background =>
    let format := c.format.getD settings.exportFormat
    let out := c.out.getD (script.withExtension format.name)
    match freshCanvas? size background with
    | none => return .crash
    | some canvas =>
      let outcome := Script.run source ⟨theme, settings.maxGoToVisits⟩ canvas
      match outcome.result with
      | .error (.compile problems) => reportProblems json (problems.map Diagnostic.render)
      | .error (.stop .counterFull) => return .crash
      | .error (.stop (.fault e)) =>
        Action.onFiles .store (outcome.canvas.exportTo out format)
        reportStop json out e.render
      | .ok r =>
        Action.onFiles .store (outcome.canvas.exportTo out format)
        reportSuccess json canvas.side out r

/-- Look for problems in a script without running it. -/
def performCheck (json : Bool) (script : Path) : Action m Ending := do
  let source ← readScript script
  match Script.compile source with
  | .ok program =>
    let n := program.statements.size
    if json then sayJson (.record [("ok", .boolean true), ("statements", .int n)])
    else Action.say s!"OK: {n} statement(s)"
    return .success
  | .error problems =>
    let lines := problems.map Diagnostic.render
    if json then sayJson (failureJson lines none) else lines.forM Action.say
    return .failure

/-- List the tokens of a script. -/
def performTokens (json : Bool) (script : Path) : Action m Ending := do
  let source ← readScript script
  let lexed := Lexer.lex source
  let problems := lexed.problems.map fun p => (Diagnostic.ofLexical p).render
  if json then
    sayJson (.record [("tokens", .list tokenJson lexed.tokens), ("errors", .list .text problems)])
  else
    lexed.tokens.forM fun t => Action.say (tokenLine t)
    problems.forM Action.warn
  return if problems.isEmpty then .success else .failure

/-- List all commands and queries. -/
def performReference (json : Bool) : Action m Ending := do
  if json then sayJson referenceJson else referenceLines.forM Action.say
  return .success

/-- List all colour names. -/
def performColors (config : Path) (settings : Settings) (json : Bool) (theme : Option String) :
    Action m Ending := do
  let legend := Theme.legend (← readTheme config (theme <|> settings.theme))
  if json then sayJson (.list colorJson legend)
  else legend.forM fun entry => Action.say (colorLine entry)
  return .success

/-- Change the stored settings, if anything is to change, and show them. -/
def performSettings (config : Path) (settings : Settings) (json : Bool) (change : Settings.Change) :
    Action m Ending := do
  let after := change.apply settings
  if let some name := change.background then
    if (resolveBackground none name).isNone then
      Action.remark <|
        s!"Warning: '{name}' is not a built-in color or hex value; it must come from a theme"
  if change ≠ .nothing then
    Action.onFiles .store (after.save config)
    Action.remark s!"Saved {config.settingsFile.text}"
  if json then sayJson after.toJson else (settingsLines after).forM Action.say
  return .success

/-- Do a job. -/
def perform (config : Path) (settings : Settings) (json : Bool) : Job → Action m Ending
  | .run script choices => performRun config settings json script choices
  | .check script => performCheck json script
  | .tokens script => performTokens json script
  | .reference => performReference json
  | .colors theme => performColors config settings json theme
  | .settings change => performSettings config settings json change

/-! ## Command lines -/

/-- The settings of a user's environment that the program looks at. -/
structure Environment where
  xdgConfigHome : Option String
  home : Option String

/-- Load the settings and do what an invocation asks for. -/
def performInvocation (env : Environment) (i : Invocation) : Action m Ending := do
  let config := i.config.getD (Path.defaultConfig env.xdgConfigHome env.home)
  let settings := (← (Settings.load config : m _)).getD .default
  match settings.problem? with
  | some problem => throw (.store (.invalid problem))
  | none => perform config settings i.json i.job

/-- Do what a command line asks for. -/
def answer (env : Environment) (words : List String) : m Outcome :=
  match Request.ofArguments words with
  | .error e => return ⟨.misuse, ⟨"", misuseText e⟩⟩
  | .ok (.help about detail) => return ⟨.success, ⟨helpText about detail, ""⟩⟩
  | .ok .version => return ⟨.success, ⟨versionText, ""⟩⟩
  | .ok (.invocation i) => (performInvocation env i).outcome

end BrushScript.CommandLine
