/-!
# Options

The words of a command line are read from left to right. A word that starts with two dashes names an
option, whose value follows after an equals sign or as the next word; two dashes alone end the
options, and all later words are operands. An option may be given once.

What an option means is a function on the choices made so far, so one reader serves every set of
options. Every way to misuse the options is a cause in `UsageError`.

The reading stops at the first word that is not understood, and at the first one that asks for help
or for the version. Either is an `Interruption`, but only the first is a mistake.
-/

namespace BrushScript.CommandLine

/-- Why a command line is not understood. -/
inductive UsageError where
  | unknownOption (word : String)
  | repeated (option : String)
  | missingValue (option : String)
  | unwantedValue (option value : String)
  | badValue (option value : String)
  | badOperand (word : String)
  | missingOperand (name : String)
  | unknownTask (word : String)
  | missingTask
  deriving DecidableEq, Repr

/-- The wording of a misuse. -/
def UsageError.message : UsageError → String
  | unknownOption word => s!"unexpected argument '{word}' found"
  | repeated option => s!"the argument '--{option}' cannot be used multiple times"
  | missingValue option => s!"a value is required for '--{option}' but none was supplied"
  | unwantedValue option value => s!"unexpected value '{value}' for '--{option}' found"
  | badValue option value => s!"invalid value '{value}' for '--{option}'"
  | badOperand word => s!"unexpected argument '{word}' found"
  | missingOperand name => s!"the required argument <{name}> was not provided"
  | unknownTask word => s!"unrecognized subcommand '{word}'"
  | missingTask => "a subcommand is required but one was not provided"

/-- How much help is asked for: `-h` asks for a summary, `--help` for all there is to say. -/
inductive Detail where
  | brief
  | full
  deriving DecidableEq, Repr

/-- Why reading the options ends before the last word. -/
inductive Interruption where
  | misuse (e : UsageError)
  | help (detail : Detail)
  | version
  deriving DecidableEq, Repr

/-! ## Words -/

/-- A word as it stands on a command line. A dash alone is an operand. -/
inductive Word where
  | operand
  | option (name : String) (value : Option String)
  | letters (first : Char)
  | separator
  deriving DecidableEq, Repr

/-- The kind of a word. -/
def Word.ofText (s : String) : Word :=
  match s.toList with
  | ['-', '-'] => .separator
  | '-' :: '-' :: rest =>
    let name := rest.takeWhile (· ≠ '=')
    match rest.drop name.length with
    | [] => .option (String.ofList name) none
    | _ :: value => .option (String.ofList name) (some (String.ofList value))
  | '-' :: c :: _ => .letters c
  | _ => .operand

/-! ## Sets of options -/

/-- What an option does to the choices made so far. -/
inductive Meaning (σ : Type) where
  /-- It stands alone. -/
  | switch (choose : σ → σ)
  /-- It takes a value, which may be refused. -/
  | value (choose : String → σ → Option σ)

/-- An option with its name and what is said about it. Where only some words are values, it lists
them, each with what it means. -/
structure OptionSpec (σ : Type) where
  name : String
  summary : String
  meaning : Meaning σ
  values : List (String × String) := []

/-- The options of one part of a command line, and what its operands mean: without a meaning, the
first operand ends the part. -/
structure Part (σ : Type) where
  options : List (OptionSpec σ)
  operand : Option (String → σ → Option σ)
  showsVersion : Bool := false

/-- The choices made so far, and the options that made them. -/
structure Reading (σ : Type) where
  choices : σ
  given : List String := []

namespace Part

variable {σ : Type}

/-- The option of a name. -/
def find? (p : Part σ) (name : String) : Option (OptionSpec σ) :=
  p.options.find? fun o => o.name = name

/-- What a word of letters asks for; only the two general requests have letters. -/
def onLetters (p : Part σ) (word : String) (first : Char) : Interruption :=
  if first = 'h' then .help .brief
  else if first = 'V' ∧ p.showsVersion then .version
  else .misuse (.unknownOption word)

/-- What an option asks for that none of the part's options is. -/
def onOther (p : Part σ) (word name : String) (value : Option String) : Interruption :=
  if value = none ∧ name = "help" then .help .full
  else if value = none ∧ name = "version" ∧ p.showsVersion then .version
  else .misuse (.unknownOption word)

/-- An option was given with or without a value. -/
def choose (r : Reading σ) (o : OptionSpec σ) (value : Option String) :
    Except Interruption (Reading σ) :=
  if o.name ∈ r.given then .error (.misuse (.repeated o.name))
  else
    match o.meaning, value with
    | .switch f, none => .ok ⟨f r.choices, o.name :: r.given⟩
    | .switch _, some v => .error (.misuse (.unwantedValue o.name v))
    | .value _, none => .error (.misuse (.missingValue o.name))
    | .value f, some v =>
      match f v r.choices with
      | some choices => .ok ⟨choices, o.name :: r.given⟩
      | none => .error (.misuse (.badValue o.name v))

/-- The option takes the next word as its value. -/
def takesNext (o : OptionSpec σ) (attached : Option String) : Bool :=
  match o.meaning, attached with
  | .value _, none => true
  | _, _ => false

/-- An operand was given. -/
def takeOperand (take : String → σ → Option σ) (r : Reading σ) (word : String) :
    Except Interruption (Reading σ) :=
  match take word r.choices with
  | some choices => .ok { r with choices }
  | none => .error (.misuse (.badOperand word))

/-- Take all words as operands. -/
def readOperands (p : Part σ) (r : Reading σ) : List String → Except Interruption (Reading σ)
  | [] => .ok r
  | word :: rest =>
    match p.operand with
    | none => .error (.misuse (.unknownTask word))
    | some take => do readOperands p (← takeOperand take r word) rest

/-- Read words up to the end of the part. The words that follow it come back. -/
def read (p : Part σ) (r : Reading σ) : List String →
    Except Interruption (Reading σ × List String)
  | [] => .ok (r, [])
  | word :: rest =>
    match Word.ofText word with
    | .separator => do return (← p.readOperands r rest, [])
    | .letters c => .error (p.onLetters word c)
    | .operand =>
      match p.operand with
      | none => .ok (r, word :: rest)
      | some take => do read p (← takeOperand take r word) rest
    | .option name attached =>
      match p.find? name with
      | none => .error (p.onOther word name attached)
      | some o =>
        if takesNext o attached then
          match rest with
          | value :: rest' =>
            if Word.ofText value = .operand then do read p (← choose r o (some value)) rest'
            else .error (.misuse (.missingValue name))
          | [] => .error (.misuse (.missingValue name))
        else do read p (← choose r o attached) rest

end Part
end BrushScript.CommandLine
