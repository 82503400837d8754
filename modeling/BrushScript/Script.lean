import BrushScript.Machine.Run
import BrushScript.Syntax.Parser
import BrushScript.Syntax.Token.Lexer
import BrushScript.Typing

/-!
# Scripts

From the text of a script to a checked program, and from there to a picture. Every phase looks at
the script even if an earlier one found problems, so one call lists them all: lexical problems, then
those of the parser, then those of the type checker.

What a later phase looks at is what an earlier one could make of the script. A line that could not
be parsed is missing from the program, and with it the variable or the label that it would have
given, so one mistake can be reported again further down. A script runs only if there are no
problems at all; otherwise the canvas stays as it is.
-/

namespace BrushScript.Script

open Syntax

/-- The program of a script, whether or not it has problems, and all its problems. -/
def examine (source : String) : Program × List Diagnostic :=
  let lexed := Lexer.lex source
  let parsed := Parser.parse lexed.tokens
  (parsed.program,
    lexed.problems.map Diagnostic.ofLexical ++ parsed.problems.map Diagnostic.ofParse ++
      (Typing.analyze parsed.program).map Diagnostic.ofSemantic)

/-- The program of a script without problems, or all problems. -/
def compile (source : String) : Except (List Diagnostic) Program :=
  match examine source with
  | (program, []) => .ok program
  | (_, problems) => .error problems

/-- Why a script did not run to its end. -/
inductive Failure where
  | compile (problems : List Diagnostic)
  | stop (why : Stop)

/-- The message that stands for a whole list of problems. -/
def compileMessage (problems : List Diagnostic) : String := s!"{problems.length} compile error(s)"

/-- What running a script came to, and the canvas it left. -/
structure Outcome where
  result : Except Failure Report
  canvas : Canvas

/-- Compile a script and run it on a canvas, which stays as it is if there are problems. -/
def run (source : String) (options : RunOptions) (canvas : Canvas) : Outcome :=
  match compile source with
  | .error problems => ⟨.error (.compile problems), canvas⟩
  | .ok program =>
    let outcome := program.run options canvas
    ⟨outcome.result.mapError .stop, outcome.canvas⟩

end BrushScript.Script
