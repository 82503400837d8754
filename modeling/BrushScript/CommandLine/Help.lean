import BrushScript.CommandLine.Invocation

/-!
# Help

The texts about the program itself. A page of help lists the tasks and options by which command
lines are read. A list has two columns, the first as wide as its longest name, unless that leaves
too little room for the second: then what is said about a name stands on the line below. A page that
has more to say in full gives every name paragraphs of its own.

There are two details of help, the short one and the full one, and what an option can take is listed
in both. Help is printed on the channel for results and is a success; a misuse is not.
-/

namespace BrushScript.CommandLine

/-- The name of the program. -/
def programName : String := "pixel-walle-cli"

/-- The version, on a line. -/
def versionText : String := programName ++ " 0.1.0\n"

/-- The text about a misuse. -/
def misuseText (e : UsageError) : String :=
  s!"error: {e.message}\n\nFor more information, try '--help'.\n"

/-- A text with blanks behind it, up to a width. -/
def padded (width : Nat) (s : String) : String := String.ofList (s.toList.rightpad width ' ')

/-- The length of the longest of some texts. -/
def widest (texts : List String) : Nat := (texts.map String.length).foldl max 0

/-! ## Entries -/

/-- A name that help lists, what is said about it, and the values that it takes with what each of
them means. -/
structure Entry where
  label : String
  summary : String
  values : List (String × String) := []
  deriving DecidableEq, Repr

/-- The blanks in front of what is said below a name. -/
def margin : String := padded 10 ""

namespace Entry

/-- What is said about a name on one line. -/
def line (e : Entry) : String :=
  let values :=
    if e.values = [] then ""
    else "[possible values: " ++ ", ".intercalate (e.values.map (·.1)) ++ "]"
  " ".intercalate ([e.summary, values].filter (· ≠ ""))

/-- The values of a name, each on a line with its meaning. -/
def valueLines (e : Entry) : List String :=
  let width := widest (e.values.map (·.1)) + 1
  e.values.map fun v => "- " ++ padded width (v.1 ++ ":") ++ " " ++ v.2

/-- All there is to say about a name. -/
def paragraphs (e : Entry) : List String :=
  if e.values = [] then [e.summary]
  else
    [e.summary].filter (· ≠ "") ++
      [("\n" ++ margin).intercalate ("Possible values:" :: e.valueLines)]

/-- A name with some paragraphs below it. -/
def above (e : Entry) (paragraphs : List String) : String :=
  "  " ++ e.label ++ "\n" ++ margin ++ ("\n\n" ++ margin).intercalate paragraphs ++ "\n"

end Entry

/-! ## Lists of entries -/

/-- The place at which the second of two columns starts. -/
def secondColumn (entries : List Entry) : Nat := widest (entries.map Entry.label) + 4

/-- Two columns are too narrow: the first takes more than two fifths of a line of a hundred places,
and what is said about some name ends beyond the line. -/
def isCrowded (entries : List Entry) : Bool :=
  40 < secondColumn entries && entries.any fun e => 100 < secondColumn entries + e.line.length

/-- Some entry has more to say than its line. -/
def hasDetails (entries : List Entry) : Bool := entries.any fun e => e.values ≠ []

/-- The entries with a line for each. -/
def briefList (entries : List Entry) : String :=
  String.join <| entries.map fun e =>
    if isCrowded entries then e.above [e.line]
    else padded (secondColumn entries) ("  " ++ e.label) ++ e.line ++ "\n"

/-- The entries with all there is to say about each, blank lines between them. -/
def fullList (entries : List Entry) : String :=
  "\n".intercalate (entries.map fun e => e.above e.paragraphs)

/-! ## Pages -/

/-- What help says about one topic: titled lists under a summary and the shape of a command line. -/
structure Page where
  summary : String
  usage : String
  lists : List (String × List Entry)
  deriving DecidableEq, Repr

/-- The text of a page. Only a page with details has a full form of its own. -/
def Page.render (p : Page) (detail : Detail) : String :=
  let list := if detail = .full ∧ p.lists.any (hasDetails ·.2) then fullList else briefList
  s!"{p.summary}\n\nUsage: {programName} {p.usage}\n" ++
    String.join (p.lists.map fun l => "\n" ++ l.1 ++ ":\n" ++ list l.2)

/-- An option as help lists it, with a name for its value. -/
def OptionSpec.entry {σ : Type} (o : OptionSpec σ) : Entry :=
  let placeholder := (o.name.map fun c => if c = '-' then '_' else c).toUpper
  let value :=
    match o.meaning with
    | .switch _ => ""
    | .value _ => " <" ++ placeholder ++ ">"
  ⟨"    --" ++ o.name ++ value, o.summary, o.values⟩

/-- The entry of the request for help, behind some others: where they have details, it says how to
see more or less of them. -/
def helpEntry (others : List Entry) (detail : Detail) : Entry :=
  let hint :=
    if hasDetails others then
      match detail with
      | .brief => " (see more with '--help')"
      | .full => " (see a summary with '-h')"
    else ""
  ⟨"-h, --help", "Print help" ++ hint, []⟩

/-- What the request for help does, as a task. -/
def helpSummary : String := "Print this message or the help of the given subcommand(s)"

/-- What the program is for, its tasks and the options of all of them. -/
def overview (detail : Detail) : Page :=
  let options := generalOptions.map OptionSpec.entry
  { summary := "Pixel Wall-E drawing language runner"
    usage := "[OPTIONS] <COMMAND>"
    lists := [
      ("Commands", (Task.all.map fun t => ⟨t.name, t.summary, []⟩) ++ [⟨"help", helpSummary, []⟩]),
      ("Options", options ++ [helpEntry options detail, ⟨"-V, --version", "Print version", []⟩])] }

/-- What a task is for, its operand and its options. -/
def Task.page (t : Task) (detail : Detail) : Page :=
  let options := t.options.map OptionSpec.entry
  let operands : List Entry := if t.takesScript then [⟨"<SCRIPT>", "", []⟩] else []
  { summary := t.summary
    usage := " ".intercalate ([t.name, "[OPTIONS]"] ++ operands.map Entry.label)
    lists :=
      (if operands = [] then [] else [("Arguments", operands)]) ++
        [("Options", options ++ [helpEntry options detail])] }

/-- How to ask for help. -/
def helpPage : Page :=
  { summary := helpSummary
    usage := "help [COMMAND]..."
    lists := [("Arguments", [⟨"[COMMAND]...", "Print help for the subcommand(s)", []⟩])] }

/-- The page about a topic. -/
def Topic.page (detail : Detail) : Topic → Page
  | program => overview detail
  | task t => t.page detail
  | help => helpPage

/-- The help about a topic. -/
def helpText (about : Topic) (detail : Detail) : String := (about.page detail).render detail

end BrushScript.CommandLine
