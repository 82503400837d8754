import BrushScript.Arithmetic.Bisection
import BrushScript.Arithmetic.SquareRoot
import BrushScript.Canvas
import BrushScript.Canvas.Document
import BrushScript.Canvas.Ppm
import BrushScript.Color
import BrushScript.Color.Hex
import BrushScript.Color.Unit
import BrushScript.CommandLine.Help
import BrushScript.CommandLine.Invocation
import BrushScript.CommandLine.Listing
import BrushScript.CommandLine.Options
import BrushScript.CommandLine.Perform
import BrushScript.CommandLine.Transcript
import BrushScript.Integer
import BrushScript.Interval
import BrushScript.Json
import BrushScript.Json.Printer
import BrushScript.Json.Reader
import BrushScript.Json.Record
import BrushScript.Json.Text
import BrushScript.Machine.Arguments
import BrushScript.Machine.Command
import BrushScript.Machine.Eval
import BrushScript.Machine.Fault
import BrushScript.Machine.Run
import BrushScript.Machine.Value
import BrushScript.Main
import BrushScript.Paint.Circle
import BrushScript.Paint.Flood
import BrushScript.Paint.Octant
import BrushScript.Paint.Rectangle
import BrushScript.Paint.Stamp
import BrushScript.Proofs.Arithmetic
import BrushScript.Proofs.Arithmetic.Word
import BrushScript.Proofs.Canvas.Counting
import BrushScript.Proofs.Canvas.Grid
import BrushScript.Proofs.Canvas.Ppm
import BrushScript.Proofs.Canvas.Stored
import BrushScript.Proofs.Color.Literal
import BrushScript.Proofs.CommandLine.Action
import BrushScript.Proofs.CommandLine.Options
import BrushScript.Proofs.CommandLine.Running
import BrushScript.Proofs.CommandLine.Settings
import BrushScript.Proofs.Integer
import BrushScript.Proofs.Json.Grammar
import BrushScript.Proofs.Json.Number
import BrushScript.Proofs.Json.Reading
import BrushScript.Proofs.Json.Text
import BrushScript.Proofs.Json.Value
import BrushScript.Proofs.Machine.Arithmetic
import BrushScript.Proofs.Machine.Atomic
import BrushScript.Proofs.Machine.Clear
import BrushScript.Proofs.Machine.Colors
import BrushScript.Proofs.Machine.Counter
import BrushScript.Proofs.Machine.Effect
import BrushScript.Proofs.Machine.Fault
import BrushScript.Proofs.Machine.Line
import BrushScript.Proofs.Machine.Power
import BrushScript.Proofs.Machine.Prefix
import BrushScript.Proofs.Machine.Ray
import BrushScript.Proofs.Machine.Relocation
import BrushScript.Proofs.Machine.Robot
import BrushScript.Proofs.Machine.Spawn
import BrushScript.Proofs.Machine.Step
import BrushScript.Proofs.Machine.Termination
import BrushScript.Proofs.Paint.Arc
import BrushScript.Proofs.Paint.Border
import BrushScript.Proofs.Paint.Circle
import BrushScript.Proofs.Paint.Column
import BrushScript.Proofs.Paint.Distant
import BrushScript.Proofs.Paint.Flood
import BrushScript.Proofs.Paint.Octant
import BrushScript.Proofs.Paint.Painted
import BrushScript.Proofs.Paint.Region
import BrushScript.Proofs.Paint.Ring
import BrushScript.Proofs.Paint.Stamp
import BrushScript.Proofs.Paint.Walk
import BrushScript.Proofs.Script.Opening
import BrushScript.Proofs.Script.Spelling
import BrushScript.Proofs.Settings.Partial
import BrushScript.Proofs.Settings.Saving
import BrushScript.Proofs.Settings.Stored
import BrushScript.Proofs.Store.Failure
import BrushScript.Proofs.Store.Folder
import BrushScript.Proofs.Store.Following
import BrushScript.Proofs.Store.Path
import BrushScript.Proofs.Store.Storage
import BrushScript.Proofs.Store.Work
import BrushScript.Proofs.Syntax.Completeness
import BrushScript.Proofs.Syntax.Expr
import BrushScript.Proofs.Syntax.Grammar
import BrushScript.Proofs.Syntax.Keyword
import BrushScript.Proofs.Syntax.Layout
import BrushScript.Proofs.Syntax.Lexer
import BrushScript.Proofs.Syntax.LineEnding
import BrushScript.Proofs.Syntax.Lines
import BrushScript.Proofs.Syntax.Nesting
import BrushScript.Proofs.Syntax.Parsed
import BrushScript.Proofs.Syntax.Placement
import BrushScript.Proofs.Syntax.Pointing
import BrushScript.Proofs.Syntax.Position
import BrushScript.Proofs.Syntax.Relocate
import BrushScript.Proofs.Syntax.Relocation
import BrushScript.Proofs.Syntax.Respacing
import BrushScript.Proofs.Syntax.Soundness
import BrushScript.Proofs.Syntax.Transport
import BrushScript.Proofs.Text.Letters
import BrushScript.Proofs.Text.Trim
import BrushScript.Proofs.Theme.Legend
import BrushScript.Proofs.Typing.Defined
import BrushScript.Proofs.Typing.Evaluation
import BrushScript.Proofs.Typing.HasType
import BrushScript.Proofs.Typing.Order
import BrushScript.Proofs.Typing.Place
import BrushScript.Proofs.Typing.Program
import BrushScript.Proofs.Typing.Relocation
import BrushScript.Proofs.Typing.Soundness
import BrushScript.Proofs.Typing.Void
import BrushScript.Scope
import BrushScript.Script
import BrushScript.Settings
import BrushScript.Settings.Change
import BrushScript.Store.Document
import BrushScript.Store.FileTree
import BrushScript.Store.Path
import BrushScript.Store.Problem
import BrushScript.Store.Storage
import BrushScript.Syntax.Builtin
import BrushScript.Syntax.Parsed
import BrushScript.Syntax.Parser
import BrushScript.Syntax.Problem
import BrushScript.Syntax.Program
import BrushScript.Syntax.Span
import BrushScript.Syntax.Token
import BrushScript.Syntax.Token.Lexer
import BrushScript.Text.Alphabetic
import BrushScript.Text.Blank
import BrushScript.Text.Caseless
import BrushScript.Text.Hexadecimal
import BrushScript.Text.Numeric
import BrushScript.Text.Quoted
import BrushScript.Text.Ranges
import BrushScript.Text.Unprintable
import BrushScript.Theme
import BrushScript.Theme.Document
import BrushScript.Typing
