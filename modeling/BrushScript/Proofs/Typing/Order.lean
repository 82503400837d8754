import BrushScript.Proofs.Typing.Place
import Mathlib.Algebra.Module.Submodule.Lattice

/-!
# The order in which problems are found

A call passes on its last problem and reports the others at once. So where calls stand among the
arguments of a call, what they report comes before everything that the arguments pass on, those
further to the left included. `inOrder_check_iff` says when the problems of an expression still come
in the order of the text: if no argument with a problem stands before one with several (`Orderly`).
`findings_inOrder_iff` says so for the statements of every script, each with the problems that begin
within it.

What a judgement has reported and what it passes on are two lists, and a row of arguments puts all
the reports in front of all that is passed on. `inOrder_interleave` is about this alone: two rows of
problems, each of them cut in two, with both front pieces first. They come in order exactly if each
row does and one of the two pieces that would overtake each other is empty. The induction over the
arguments of a call applies it once for each argument.
-/

namespace BrushScript.Typing

open Syntax Judgement

/-- Problems come in the order of the text. -/
def InOrder (found : List Finding) : Prop :=
  found.Pairwise fun f g => f.span.start ≤ g.span.start

theorem inOrder_of_length_le_one {found : List Finding} (few : found.length ≤ 1) :
    InOrder found := by
  refine List.pairwise_iff_getElem.mpr fun i j _ _ lt => ?_
  omega

/-- Two rows of problems, one behind the other in the text, are cut in two each, and both front
pieces listed first. They come in order if each row does, and if nothing is overtaken. -/
theorem inOrder_interleave {r f r' f' : List Finding}
    (apart : ∀ x ∈ r ++ f, ∀ y ∈ r' ++ f', x.span.start < y.span.start) :
    InOrder (r ++ r' ++ (f ++ f')) ↔
      InOrder (r ++ f) ∧ InOrder (r' ++ f') ∧ (f = [] ∨ r' = []) := by
  unfold InOrder
  simp only [List.pairwise_append, List.mem_append] at apart ⊢
  constructor
  · -- the two pieces that have changed places hold nothing that was overtaken
    rintro ⟨⟨front, front', -⟩, ⟨back, back', -⟩, cross⟩
    refine ⟨⟨front, back, fun x mem y mem' => cross x (.inl mem) y (.inl mem')⟩,
      ⟨front', back', fun x mem y mem' => cross x (.inr mem) y (.inr mem')⟩, ?_⟩
    rcases f with - | ⟨x, f⟩
    · exact .inl rfl
    rcases r' with - | ⟨y, r'⟩
    · exact .inr rfl
    have overtakes := cross y (.inr List.mem_cons_self) x (.inl List.mem_cons_self)
    have := apart x (.inr List.mem_cons_self) y (.inl List.mem_cons_self)
    omega
  · -- of the four pieces only `r'` and `f` stand the other way round than in the text
    rintro ⟨⟨front, back, row⟩, ⟨front', back', row'⟩, nothing⟩
    refine ⟨⟨front, front', fun x mem y mem' => Nat.le_of_lt (apart x (.inl mem) y (.inl mem'))⟩,
      ⟨back, back', fun x mem y mem' => Nat.le_of_lt (apart x (.inr mem) y (.inr mem'))⟩, ?_⟩
    rintro x (mem | mem) y (mem' | mem')
    · exact row x mem y mem'
    · exact Nat.le_of_lt (apart x (.inl mem) y (.inr mem'))
    · rcases nothing with rfl | rfl
      · cases mem'
      · cases mem
    · exact row' x mem y mem'

/-- What looks at one place does not bring the problems of the check before it out of order. -/
theorem inOrder_andThen_iff {α β : Type} {j : Judgement α} (plain : j.Plain)
    {f : α → Judgement β} {place : Span} (next : ∀ a, At place (f a)) :
    InOrder (j.andThen f).problems ↔ InOrder j.problems := by
  rcases plain.problems_andThen_at next with same | ⟨free, k, at_k, same⟩
  · rw [same]
  · rw [same, free]
    exact iff_of_true (inOrder_of_length_le_one at_k.length_problems) .nil

/-! ## Expressions

Where problems can be out of order at all. Literals, variables and operators have at most one
problem of their own, behind those of their operands, and of two operands only one has problems. So
disorder comes from calls and is passed on by everything around them.
-/

variable {ctx : Context}

mutual

/-- In no call that the checker looks into does an argument with a problem stand before one with
several. -/
def Orderly (ctx : Context) : Expr → Prop
  | .number _ _ | .string _ _ | .boolean _ _ | .var _ _ => True
  | .unary _ operand _ => Orderly ctx operand
  | .binary _ left right _ =>
    Orderly ctx left ∧ ((check ctx left).problems = [] → Orderly ctx right)
  | .call b args _ =>
    args.length = b.arity →
      AllOrderly ctx args ∧
        (b.params.zip args).Pairwise fun x y =>
          (check ctx x.2).outcome = .ok x.1.type ∨ (check ctx y.2).problems.length ≤ 1

/-- All of the expressions are orderly. -/
def AllOrderly (ctx : Context) : List Expr → Prop
  | [] => True
  | e :: es => Orderly ctx e ∧ AllOrderly ctx es

end

theorem allOrderly_iff {es : List Expr} : AllOrderly ctx es ↔ ∀ e ∈ es, Orderly ctx e := by
  induction es with
  | nil => simp [AllOrderly]
  | cons e es ih => simp [AllOrderly, ih]

theorem inOrder_argumentProblems_iff (b : Builtin) (position : Nat) (param : Param) {arg : Expr} :
    InOrder (argumentProblems ctx b position param arg) ↔ InOrder (check ctx arg).problems := by
  rcases argumentProblems_cases b position param (plain_check ctx arg) with
    same | ⟨free, problem, same⟩
  · rw [same]
  · rw [same, free]
    exact iff_of_true (List.pairwise_singleton ..) .nil

/-- Nothing is reported of arguments exactly if none has several problems. -/
theorem reported_checkArguments_eq_nil_iff {b : Builtin} {position : Nat} {params : List Param}
    {args : List Expr} :
    (checkArguments ctx b position params args).reported = [] ↔
      ∀ pair ∈ params.zip args, (check ctx pair.2).problems.length ≤ 1 := by
  induction args generalizing position params with
  | nil => cases params <;> simp [checkArguments]
  | cons arg args ih =>
    cases params with
    | nil => simp [checkArguments]
    | cons param params =>
      rw [List.zip_cons_cons, List.forall_mem_cons, checkArguments, List.append_eq_nil_iff, ih,
        (plain_check ctx arg).reported_eq_nil_iff]

/-- The problems of the arguments of a call come in order if those of each argument do, and if none
of them is overtaken by what another argument reports. -/
theorem inOrder_checkArguments_iff (b : Builtin) (position : Nat) (params : List Param)
    {args : List Expr} (nested : ∀ arg ∈ args, arg.Nested)
    (row : args.Pairwise fun x y => x.span.Before y.span) :
    InOrder ((checkArguments ctx b position params args).reported ++
        (checkArguments ctx b position params args).failures) ↔
      (∀ pair ∈ params.zip args, InOrder (check ctx pair.2).problems) ∧
        (params.zip args).Pairwise fun x y =>
          (check ctx x.2).outcome = .ok x.1.type ∨ (check ctx y.2).problems.length ≤ 1 := by
  induction args generalizing position params with
  | nil => cases params <;> simp [checkArguments, InOrder]
  | cons arg args ih =>
    cases params with
    | nil => simp [checkArguments, InOrder]
    | cons param params =>
      obtain ⟨nested, nested'⟩ := List.forall_mem_cons.mp nested
      obtain ⟨behind, row⟩ := List.pairwise_cons.mp row
      -- the problems of the first argument begin within it, those of the others behind it
      have first := beginsIn_argumentProblems b position param nested (beginsIn_check ctx nested)
      have rest := beginsIn_checkArguments b (position + 1) params nested'
        fun arg mem => beginsIn_check ctx (nested' arg mem)
      rw [checkArguments, inOrder_interleave fun x mem y mem' => by
        obtain ⟨arg', among, begins⟩ := rest y mem'
        exact (first x mem).lt begins (behind arg' among)]
      rw [show _ ++ argumentFailures b position param arg.span _ =
        argumentProblems ctx b position param arg from rfl]
      rw [inOrder_argumentProblems_iff, ih (position + 1) params nested' row,
        argumentFailures_eq_nil_iff, reported_checkArguments_eq_nil_iff, List.zip_cons_cons,
        List.forall_mem_cons, List.pairwise_cons]
      by_cases fits : (check ctx arg).outcome = .ok param.type
      · simp only [fits, true_or, implies_true, true_and, and_true, and_assoc]
      · simp only [fits, false_or, and_assoc, and_left_comm, and_comm]

/-- The problems of an expression come in the order of the text exactly if it is orderly. -/
theorem inOrder_check_iff (ctx : Context) {e : Expr} (nested : e.Nested) :
    InOrder (check ctx e).problems ↔ Orderly ctx e := by
  induction e using Expr.induction with
  | number | string | boolean =>
    rw [check, Orderly]
    exact iff_of_true .nil trivial
  | var name span =>
    rw [check, Orderly]
    split
    · exact iff_of_true .nil trivial
    · exact iff_of_true (List.pairwise_singleton ..) trivial
  | unary op operand span ih =>
    rw [check, Orderly, ← ih (nested.part List.mem_cons_self)]
    exact inOrder_andThen_iff (plain_check ctx operand) fun type => at_unaryType op type span
  | binary op left right span ihl ihr =>
    have ihl := ihl (nested.part List.mem_cons_self)
    have ihr := ihr (nested.part (List.mem_cons_of_mem _ List.mem_cons_self))
    rw [check, Orderly, ← ihl, ← ihr]
    rcases (plain_check ctx left).problems_andThen fun l =>
      (check ctx right).andThen fun r => binaryType op l r span with
      ⟨l, free, same⟩ | ⟨found, same⟩
    · -- the operand on the left has no problem, so all of them are of the other one
      have nothing : InOrder [] := .nil
      rw [same, free, inOrder_andThen_iff (plain_check ctx right) fun r =>
        at_binaryType op l r span]
      simp only [nothing, true_and, true_imp_iff]
    · rw [same]
      exact ⟨fun inOrder => ⟨inOrder, fun free => absurd free found⟩, And.left⟩
  | call b args span ih => -- problems of the arguments, or one about their number
    rw [check, Orderly]
    split
    · next count =>
      have arguments : ∀ arg ∈ args, arg.Nested := fun arg mem => nested.part mem
      rw [problems_conclude, inOrder_checkArguments_iff b 1 b.params arguments nested.row.ordered,
        forall_prop_of_true count, allOrderly_iff]
      refine and_congr_left' ?_
      -- the number of arguments is right, so none is left out where they meet the parameters
      have all : (b.params.zip args).map Prod.snd = args := List.map_snd_zip (Nat.le_of_eq count)
      conv_rhs => rw [← all, List.forall_mem_map]
      refine forall₂_congr fun pair mem => ?_
      have among : pair.2 ∈ args := (List.of_mem_zip mem).2
      exact ih pair.2 among (arguments _ among)
    · next other =>
      exact iff_of_true (List.pairwise_singleton ..) fun count => absurd count other

/-! ## Statements

A statement adds at most one problem, about its expression as a whole, and only if the expression
has none. So its problems come in order if those of the expression do.
-/

/-- A statement is orderly if what the checker looks into is. -/
def StmtOrderly (ctx : Context) (s : Stmt) : Prop := ∀ e ∈ lookedInto? ctx s, Orderly ctx e

/-- The problems of a statement come in the order of the text exactly if it is orderly. -/
theorem inOrder_checkStmt_iff (ctx : Context) {s : Stmt} (nested : s.Nested) :
    InOrder (checkStmt ctx s).problems ↔ StmtOrderly ctx s := by
  rcases problems_checkStmt_cases ctx s with
    ⟨e, looked, same⟩ | ⟨free, span, j, -, at_j, same⟩
  · rw [same, inOrder_check_iff ctx (nested_of_lookedInto nested looked).1]
    constructor
    · intro orderly e' looked'
      cases Option.mem_unique looked looked'
      exact orderly
    · intro orderly
      exact orderly e looked
  · rw [same]
    refine iff_of_true (inOrder_of_length_le_one at_j.length_problems) fun e looked => ?_
    rw [← inOrder_check_iff ctx (nested_of_lookedInto nested looked).1, free e looked]
    exact .nil

/-! ## Programs

The problems that begin within a statement are the ones that were found there, preceded by those of
its label. A label has no expression, so the two kinds never meet in one statement.
-/

variable {statements : List Stmt} {p : Program}

theorem inOrder_duplicateLabels (nested : ∀ s ∈ statements, s.Nested)
    (ordered : statements.Pairwise fun s t => s.span.Before t.span) (seen : List String) :
    InOrder (duplicateLabels seen statements) := by
  have ascending : (statements.map (·.span)).Pairwise fun s t => s.start ≤ t.start := by
    rw [List.pairwise_map]
    refine ordered.imp_of_mem fun {s t} mem _ before => ?_
    exact Nat.le_of_lt (Nat.lt_of_lt_of_le (nested s mem).nonempty before)
  have sub := (duplicateLabels_sublist seen statements).trans
    (List.filter_sublist.map Stmt.span)
  have found := ascending.sublist sub
  rw [List.pairwise_map] at found
  exact found

/-- In a program that nests, the problems within a statement come in the order of the text exactly
if the statement is orderly. -/
theorem inOrder_beginningIn_iff (nested : p.Nested) {i : Nat} (h : i < p.statements.size) :
    InOrder (beginningIn p.statements[i].span (analyze p)) ↔
      StmtOrderly (contextAt p i) p.statements[i] := by
  have within : i < p.statements.toList.length := by simpa using h
  have checked := beginningIn_checkAll nested.each nested.ordered
    ⟨labelsOf p.statements.toList, .empty⟩ within
  rw [analyze, beginningIn_append]
  show InOrder (beginningIn p.statements.toList[i].span _ ++
    beginningIn p.statements.toList[i].span _) ↔ StmtOrderly _ p.statements.toList[i]
  rw [checked]
  by_cases labelled : p.statements.toList[i].label?.isSome = true
  · -- the problems of labels are in order, and a label has no other problem
    obtain ⟨free, unlooked⟩ := checkStmt_of_label labelled (contextAt p i)
    unfold contextAt at free
    rw [free, List.append_nil]
    refine iff_of_true ?_ fun e looked => by rw [unlooked] at looked; cases looked
    exact (inOrder_duplicateLabels nested.each nested.ordered []).sublist List.filter_sublist
  · rw [beginningIn_duplicateLabels nested.each nested.ordered [] within labelled,
      List.nil_append]
    exact inOrder_checkStmt_iff _ (nested.each _ (List.getElem_mem within))

/-- Whatever the script is, each problem that is found in its program begins within one statement,
and the problems of one statement come in the order of the text exactly if the statement is orderly:
if in no call that is looked into an argument with a problem stands before one with several. -/
theorem findings_inOrder_iff (source : String) :
    (∀ f ∈ analyze (programOf source), ∃! i : Fin (programOf source).statements.size,
        BeginsIn f.span (programOf source).statements[i].span) ∧
      ∀ i : Fin (programOf source).statements.size,
        InOrder (beginningIn (programOf source).statements[i].span (analyze (programOf source))) ↔
          StmtOrderly (contextAt (programOf source) i) (programOf source).statements[i] := by
  have nested := nested_programOf source
  exact ⟨fun f mem => existsUnique_beginsIn nested mem,
    fun i => inOrder_beginningIn_iff nested i.isLt⟩

/-- A script with a problem in front of a call that has two. -/
def overtaking : String := "Spawn(\"\",GetColorCount(0,\"\",0,0,0))"

theorem lex_overtaking :
    Lexer.lex overtaking =
      ⟨[⟨.builtin (.command .spawn), ⟨0, 5, 1, 1⟩⟩, ⟨.sign .leftParen, ⟨5, 6, 1, 6⟩⟩,
        ⟨.string "", ⟨6, 8, 1, 7⟩⟩, ⟨.sign .comma, ⟨8, 9, 1, 9⟩⟩,
        ⟨.builtin (.query .colorCount), ⟨9, 22, 1, 10⟩⟩, ⟨.sign .leftParen, ⟨22, 23, 1, 23⟩⟩,
        ⟨.number "0", ⟨23, 24, 1, 24⟩⟩, ⟨.sign .comma, ⟨24, 25, 1, 25⟩⟩,
        ⟨.string "", ⟨25, 27, 1, 26⟩⟩, ⟨.sign .comma, ⟨27, 28, 1, 28⟩⟩,
        ⟨.number "0", ⟨28, 29, 1, 29⟩⟩, ⟨.sign .comma, ⟨29, 30, 1, 30⟩⟩,
        ⟨.number "0", ⟨30, 31, 1, 31⟩⟩, ⟨.sign .comma, ⟨31, 32, 1, 32⟩⟩,
        ⟨.number "0", ⟨32, 33, 1, 33⟩⟩, ⟨.sign .rightParen, ⟨33, 34, 1, 34⟩⟩,
        ⟨.sign .rightParen, ⟨34, 35, 1, 35⟩⟩, ⟨.eof, ⟨35, 35, 1, 36⟩⟩], []⟩ := by
  decide +kernel

/-- The first problem of the inner call comes before that of the argument in front of the call. -/
theorem findings_overtaking :
    (programOf overtaking).statements.toList.map (·.span) = [⟨0, 35, 1, 1⟩] ∧
      (beginningIn ⟨0, 35, 1, 1⟩ (analyze (programOf overtaking))).map (·.span.start) =
        [23, 6, 25] ∧
      ¬ InOrder (beginningIn ⟨0, 35, 1, 1⟩ (analyze (programOf overtaking))) := by
  have starts : (beginningIn ⟨0, 35, 1, 1⟩ (analyze (programOf overtaking))).map (·.span.start) =
      [23, 6, 25] := by
    rw [programOf, lex_overtaking]
    -- on the digits this unfolds `≤`, by the equation that the import from the library brings
    cbv
  refine ⟨?_, starts, ?_⟩
  · rw [programOf, lex_overtaking]
    cbv
  · intro inOrder
    have ascending : [23, 6, 25].Pairwise (· ≤ ·) := by
      rw [← starts, List.pairwise_map]
      exact inOrder
    exact absurd ascending (by decide)

end BrushScript.Typing
