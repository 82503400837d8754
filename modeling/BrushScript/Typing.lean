import BrushScript.Scope
import BrushScript.Syntax.Problem

/-!
# Type checking

A program is checked without running it. First the labels are collected; then every other statement
is read once, in the order of the script, and a variable takes the type of its first assignment. A
statement with a problem does not hide the problems of later statements.

One expression stops at its first problem, but a call looks at all its arguments. Of a call's
problems the last one is what the call as a whole failed with, and is passed on; the others are
reported at once. So a judgement has two parts: what was reported on the way, and the type or the
problem that is left.
-/

namespace BrushScript.Typing

open Syntax

/-- A problem at its place. -/
abbrev Finding := Located SemanticProblem

/-- The outcome of a check: problems reported on the way, and a result or the problem that stopped
the check. -/
structure Judgement (α : Type) where
  reported : List Finding
  outcome : Except Finding α

namespace Judgement

variable {α β : Type}

/-- A result without problems. -/
def accept (a : α) : Judgement α := ⟨[], .ok a⟩

/-- A problem that stops the check. -/
def reject (problem : SemanticProblem) (span : Span) : Judgement α := ⟨[], .error ⟨problem, span⟩⟩

/-- Go on with the result, if there is one. -/
def andThen (j : Judgement α) (f : α → Judgement β) : Judgement β :=
  match j.outcome with
  | .ok a => ⟨j.reported ++ (f a).reported, (f a).outcome⟩
  | .error e => ⟨j.reported, .error e⟩

/-- All problems, the one that stopped the check last. -/
def problems (j : Judgement α) : List Finding :=
  match j.outcome with
  | .ok _ => j.reported
  | .error e => j.reported ++ [e]

end Judgement

/-- What is known about a program so far: its labels, and the types of its variables. -/
structure Context where
  labels : List String
  types : Scope TypeName

/-! ## Operators -/

/-- The type of a unary operation. -/
def unaryType (op : UnaryOp) (operand : TypeName) (span : Span) : Judgement TypeName :=
  match op, operand with
  | .neg, .number => .accept .number
  | .not, .boolean => .accept .boolean
  | op, other => .reject (.unaryOperand op other) span

/-- The type of a binary operation. -/
def binaryType (op : BinaryOp) (left right : TypeName) (span : Span) : Judgement TypeName :=
  match op with
  | .add | .sub | .mul | .div | .mod | .pow =>
    if left = .number ∧ right = .number then .accept .number
    else .reject (.arithmeticOperands op left right) span
  | .lt | .gt | .le | .ge =>
    if left = .number ∧ right = .number then .accept .boolean
    else .reject (.orderOperands op left right) span
  | .eq | .ne =>
    if left = right then .accept .boolean else .reject (.equalityOperands left right) span
  | .and | .or =>
    if left = .boolean ∧ right = .boolean then .accept .boolean
    else .reject (.logicOperands op left right) span

/-! ## Expressions -/

/-- What the arguments of a call were found to be: problems reported on the way, and the problems of
the call itself. -/
structure Arguments where
  reported : List Finding
  failures : List Finding

/-- The judgement on a call whose arguments were looked at. -/
def Arguments.conclude (args : Arguments) (answer : TypeName) : Judgement TypeName :=
  match args.failures.getLast? with
  | none => ⟨args.reported, .ok answer⟩
  | some last => ⟨args.reported ++ args.failures.dropLast, .error last⟩

/-- The failures of one argument: its own problem, or a type other than the parameter's. -/
def argumentFailures (b : Builtin) (position : Nat) (param : Param) (span : Span) :
    Except Finding TypeName → List Finding
  | .error e => [e]
  | .ok found =>
    if found = param.type then [] else [⟨.argumentType b position param found, span⟩]

mutual

/-- The type of an expression. -/
def check (ctx : Context) : Expr → Judgement TypeName
  | .number _ _ => .accept .number
  | .string _ _ => .accept .string
  | .boolean _ _ => .accept .boolean
  | .var name span =>
    match ctx.types.get? name with
    | some type => .accept type
    | none => .reject (.undefinedVariable name) span
  | .unary op operand span => (check ctx operand).andThen fun type => unaryType op type span
  | .binary op left right span =>
    (check ctx left).andThen fun l => (check ctx right).andThen fun r => binaryType op l r span
  | .call b args span =>
    if args.length = b.arity then (checkArguments ctx b 1 b.params args).conclude b.answer
    else .reject (.argumentCount b args.length) span

/-- Look at the arguments of a call from a position on, each beside its parameter. -/
def checkArguments (ctx : Context) (b : Builtin) (position : Nat) :
    List Param → List Expr → Arguments
  | param :: params, arg :: args =>
    let j := check ctx arg
    let later := checkArguments ctx b (position + 1) params args
    ⟨j.reported ++ later.reported,
      argumentFailures b position param arg.span j.outcome ++ later.failures⟩
  | _, _ => ⟨[], []⟩

end

/-! ## Statements -/

/-- Check a statement; an assignment may make a variable known. -/
def checkStmt (ctx : Context) (s : Stmt) : Judgement Context :=
  match s.action with
  | .assign name value =>
    (check ctx value).andThen fun type =>
      if type = .void then .reject .voidAssignment s.span
      else
        match ctx.types.get? name with
        | none => .accept { ctx with types := ctx.types.set name type }
        | some bound =>
          if bound = type then .accept ctx else .reject (.reassignment name type bound) s.span
  | .label _ => .accept ctx
  | .goTo label condition =>
    if label ∈ ctx.labels then
      (check ctx condition).andThen fun type =>
        if type = .boolean then .accept ctx else .reject (.condition type) condition.span
    else .reject (.undefinedLabel label) s.span
  | .call b args => (check ctx (.call b args s.span)).andThen fun _ => .accept ctx

/-- The context after a statement, which a statement with a problem leaves as it was. -/
def contextAfter (ctx : Context) (s : Stmt) : Context :=
  match (checkStmt ctx s).outcome with
  | .ok ctx' => ctx'
  | .error _ => ctx

/-- The problems of statements that follow one another. -/
def checkAll (ctx : Context) : List Stmt → List Finding
  | [] => []
  | s :: rest => (checkStmt ctx s).problems ++ checkAll (contextAfter ctx s) rest

/-! ## Programs -/

/-- The problems of labels that stand a second time; `seen` are the labels before. -/
def duplicateLabels (seen : List String) : List Stmt → List Finding
  | [] => []
  | s :: rest =>
    match s.label? with
    | none => duplicateLabels seen rest
    | some name =>
      if name ∈ seen then ⟨.duplicateLabel name, s.span⟩ :: duplicateLabels seen rest
      else duplicateLabels (name :: seen) rest

/-- The labels of statements. -/
def labelsOf (statements : List Stmt) : List String := statements.filterMap Stmt.label?

/-- The problems of a program: those of its labels, then those of its statements. -/
def analyze (p : Program) : List Finding :=
  let statements := p.statements.toList
  duplicateLabels [] statements ++ checkAll ⟨labelsOf statements, .empty⟩ statements

end BrushScript.Typing
