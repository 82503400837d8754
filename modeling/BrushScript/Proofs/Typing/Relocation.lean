import BrushScript.Proofs.Syntax.Relocation
import BrushScript.Typing

/-!
# A program is checked in the same way wherever it stands

Checking looks at no place. So if the places of a program are moved, the same problems are found at
the places moved (`analyze_relocate`), in the same order.

A judgement is moved by moving its problems (`Judgement.relocate`). Each function of the checker
commutes with that, from the operators up to the whole program, and the lemma for one function uses
those for the functions it calls.
-/

namespace BrushScript.Typing

open Syntax

variable {α β : Type} {f : Span → Span} {ctx : Context}

namespace Judgement

/-- The judgement with its problems at other places. -/
def relocate (f : Span → Span) (j : Judgement α) : Judgement α :=
  ⟨j.reported.map (·.relocate f), j.outcome.mapError (·.relocate f)⟩

theorem relocate_andThen (j : Judgement α) (k : α → Judgement β) :
    (j.andThen k).relocate f = (j.relocate f).andThen fun a => (k a).relocate f := by
  obtain ⟨reported, outcome⟩ := j
  cases outcome with
  | ok a =>
    unfold andThen relocate
    dsimp only [Except.mapError]
    rw [List.map_append]
  | error e => rfl

theorem problems_relocate (j : Judgement α) :
    (j.relocate f).problems = j.problems.map (·.relocate f) := by
  obtain ⟨reported, outcome⟩ := j
  cases outcome with
  | ok a => rfl
  | error e =>
    show _ = List.map _ (reported ++ [e])
    rw [List.map_append]
    rfl

end Judgement

/-! ## Expressions

The checker branches on types, counts and names, and hands places on to the problems it finds. So
both sides take the same branch, and differ in the places alone.
-/

theorem unaryType_relocate (op : UnaryOp) (operand : TypeName) (span : Span) :
    unaryType op operand (f span) = (unaryType op operand span).relocate f := by
  cases op <;> cases operand <;> rfl

theorem binaryType_relocate (op : BinaryOp) (left right : TypeName) (span : Span) :
    binaryType op left right (f span) = (binaryType op left right span).relocate f := by
  unfold binaryType
  split <;> split <;> rfl

/-- What the arguments were found to be, with the problems at other places. -/
def Arguments.relocate (f : Span → Span) (args : Arguments) : Arguments :=
  ⟨args.reported.map (·.relocate f), args.failures.map (·.relocate f)⟩

theorem conclude_relocate (args : Arguments) (answer : TypeName) :
    (args.relocate f).conclude answer = (args.conclude answer).relocate f := by
  unfold Arguments.conclude
  rw [Arguments.relocate, List.getLast?_map]
  cases args.failures.getLast? with
  | none => rfl
  | some last =>
    show Judgement.mk _ _ = Judgement.mk _ _
    rw [List.map_append, List.map_dropLast]
    rfl

theorem argumentFailures_relocate (b : Builtin) (position : Nat) (param : Param) (span : Span)
    (outcome : Except Finding TypeName) :
    argumentFailures b position param (f span) (outcome.mapError (·.relocate f)) =
      (argumentFailures b position param span outcome).map (·.relocate f) := by
  cases outcome with
  | error e => rfl
  | ok found =>
    show (if _ then _ else _) = List.map _ (if _ then _ else _)
    split <;> rfl

theorem checkArguments_relocate {b : Builtin} {args : List Expr}
    (each : ∀ arg ∈ args, check ctx (arg.relocate f) = (check ctx arg).relocate f)
    (position : Nat) (params : List Param) :
    checkArguments ctx b position params (args.map (Expr.relocate f)) =
      (checkArguments ctx b position params args).relocate f := by
  induction args generalizing position params with
  | nil => cases params <;> rfl
  | cons arg args ih =>
    obtain ⟨here, later⟩ := List.forall_mem_cons.mp each
    cases params with
    | nil => rfl
    | cons param params =>
      rw [List.map_cons, checkArguments, checkArguments, here, ih later, Expr.span_relocate]
      dsimp only [Judgement.relocate, Arguments.relocate]
      rw [argumentFailures_relocate, List.map_append, List.map_append]

/-- An expression has the same type, or the same problem, wherever it stands. -/
theorem check_relocate (ctx : Context) (e : Expr) :
    check ctx (e.relocate f) = (check ctx e).relocate f := by
  induction e using Expr.induction with
  | number | string | boolean => rfl
  | var name span =>
    rw [Expr.relocate, check, check]
    split <;> rfl
  | unary op operand span ih =>
    rw [Expr.relocate, check, check, ih, Judgement.relocate_andThen]
    simp only [unaryType_relocate]
  | binary op left right span ihl ihr =>
    rw [Expr.relocate, check, check, ihl, ihr, Judgement.relocate_andThen]
    simp only [Judgement.relocate_andThen, binaryType_relocate]
  | call b args span ih =>
    rw [Expr.relocate, Expr.relocateAll_eq_map, check, check, List.length_map,
      checkArguments_relocate ih, conclude_relocate]
    split <;> rfl

/-! ## Statements

The context behind a statement has no places in it, so the statements that follow are checked in the
same context.
-/

theorem checkStmt_relocate (ctx : Context) (s : Stmt) :
    checkStmt ctx (s.relocate f) = (checkStmt ctx s).relocate f := by
  obtain ⟨action, span⟩ := s
  cases action with
  | assign name value =>
    show (check ctx (value.relocate f)).andThen _ = ((check ctx value).andThen _).relocate f
    rw [check_relocate, Judgement.relocate_andThen]
    congr 1
    funext type
    -- no value, a new variable, or one that has a type
    split
    · rfl
    · split
      · rfl
      · split <;> rfl
  | label name => rfl
  | goTo label condition =>
    show (if _ then (check ctx (condition.relocate f)).andThen _ else _) =
      Judgement.relocate f (if _ then (check ctx condition).andThen _ else _)
    split
    · rw [check_relocate, Judgement.relocate_andThen, Expr.span_relocate]
      congr 1
      funext type
      split <;> rfl
    · rfl
  | call b args =>
    have whole := check_relocate (f := f) ctx (.call b args span)
    rw [Expr.relocate, Expr.relocateAll_eq_map] at whole
    show (check ctx (.call b (args.map _) (f span))).andThen _ =
      ((check ctx (.call b args span)).andThen _).relocate f
    rw [whole, Judgement.relocate_andThen]
    rfl

theorem contextAfter_relocate (ctx : Context) (s : Stmt) :
    contextAfter ctx (s.relocate f) = contextAfter ctx s := by
  unfold contextAfter
  rw [checkStmt_relocate]
  unfold Judgement.relocate
  cases (checkStmt ctx s).outcome <;> rfl

theorem checkAll_relocate (ctx : Context) (statements : List Stmt) :
    checkAll ctx (statements.map (Stmt.relocate f)) =
      (checkAll ctx statements).map (·.relocate f) := by
  induction statements generalizing ctx with
  | nil => rfl
  | cons s rest ih =>
    rw [List.map_cons, checkAll, checkAll, checkStmt_relocate, Judgement.problems_relocate,
      contextAfter_relocate, ih, List.map_append]

/-! ## Programs -/

theorem labelsOf_relocate (statements : List Stmt) :
    labelsOf (statements.map (Stmt.relocate f)) = labelsOf statements := by
  rw [labelsOf, List.filterMap_map, labelsOf]
  congr 1
  funext s
  exact s.label?_relocate f

theorem duplicateLabels_relocate (seen : List String) (statements : List Stmt) :
    duplicateLabels seen (statements.map (Stmt.relocate f)) =
      (duplicateLabels seen statements).map (·.relocate f) := by
  induction statements generalizing seen with
  | nil => rfl
  | cons s rest ih =>
    rw [List.map_cons, duplicateLabels, duplicateLabels, Stmt.label?_relocate]
    cases s.label? with
    | none => exact ih seen
    | some name =>
      dsimp only
      rw [ih, ih]
      split <;> rfl

/-- The same problems are found in a program wherever it stands. -/
theorem analyze_relocate (p : Program) :
    analyze (p.relocate f) = (analyze p).map (·.relocate f) := by
  rw [analyze, analyze]
  dsimp only [Program.relocate]
  rw [Array.toList_map, duplicateLabels_relocate, labelsOf_relocate, checkAll_relocate,
    List.map_append]

end BrushScript.Typing
