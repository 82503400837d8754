import BrushScript.Syntax.Builtin
import BrushScript.Syntax.Span

/-!
# Programs

A program is a list of statements, which the program counter of a run indexes. Every expression and
statement knows its place in the script. Boolean literals have no spelling in a script, but a
program built by other means may hold them; likewise a command may stand in an expression or a query
as a statement, which a run refuses or ignores.

A label is a statement of its own, and a jump goes to the place where it stands. The names of labels
and variables are kept as they were written.
-/

namespace BrushScript.Syntax

/-- Operators with one operand. -/
inductive UnaryOp where
  | neg
  | not
  deriving DecidableEq, Repr

/-- Operators with two operands. -/
inductive BinaryOp where
  | add
  | sub
  | mul
  | div
  | mod
  | pow
  | lt
  | gt
  | le
  | ge
  | eq
  | ne
  | and
  | or
  deriving DecidableEq, Repr

/-- The operator as a script writes it. -/
def UnaryOp.symbol : UnaryOp → String
  | neg => "-"
  | not => "!"

/-- The operator as a script writes it. -/
def BinaryOp.symbol : BinaryOp → String
  | add => "+"
  | sub => "-"
  | mul => "*"
  | div => "/"
  | mod => "%"
  | pow => "**"
  | lt => "<"
  | gt => ">"
  | le => "<="
  | ge => ">="
  | eq => "=="
  | ne => "!="
  | and => "&&"
  | or => "||"

/-- Expressions. -/
inductive Expr where
  | number (value : Int64) (span : Span)
  | string (value : String) (span : Span)
  | boolean (value : Bool) (span : Span)
  | var (name : String) (span : Span)
  | unary (op : UnaryOp) (operand : Expr) (span : Span)
  | binary (op : BinaryOp) (left right : Expr) (span : Span)
  | call (builtin : Builtin) (args : List Expr) (span : Span)
  deriving Repr

/-- The place of an expression. -/
def Expr.span : Expr → Span
  | number _ s | string _ s | boolean _ s | var _ s => s
  | unary _ _ s | binary _ _ _ s | call _ _ s => s

/-- What a statement does. -/
inductive Action where
  /-- Bind a variable. -/
  | assign (name : String) (value : Expr)
  /-- Mark the place that jumps name. -/
  | label (name : String)
  /-- Jump to a label if a condition holds. -/
  | goTo (label : String) (condition : Expr)
  /-- Carry out a command. -/
  | call (builtin : Builtin) (args : List Expr)
  deriving Repr

/-- A statement at its place. -/
structure Stmt where
  action : Action
  span : Span
  deriving Repr

/-- The name that a label statement defines. -/
def Stmt.label? (s : Stmt) : Option String :=
  match s.action with
  | .label name => some name
  | _ => none

/-- A program: statements in the order of the script. -/
structure Program where
  statements : Array Stmt
  deriving Repr

/-- The program of the first statements alone. -/
def Program.take (p : Program) (n : Nat) : Program := ⟨p.statements.take n⟩

end BrushScript.Syntax
