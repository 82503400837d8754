import BrushScript.Proofs.Syntax.Nesting
import BrushScript.Proofs.Typing.Program

/-!
# Where the problems of a program lie

The checker tells the place of every problem. In a program whose places nest, the problem begins
within the expression and the statement that the checker was looking at (`beginsIn_check`,
`beginsIn_checkStmt`). So each problem of a program belongs to one statement
(`existsUnique_beginsIn`), and those that begin within a statement are those that were found there
(`beginningIn_checkAll`).

A judgement that gives a result reports nothing (`plain_check`), so a check either goes on without
problems or ends with those that it has.

The last step of every check looks at one place: an operator at its expression, a statement at its
own place or that of an expression in it. `At place j` says of such a judgement that it accepts or
has one problem, at that place. The problems of a construct are then those of the check before that
step, or the one of the step itself (`Plain.problems_andThen_at`), and both lie where they should.
-/

namespace BrushScript.Typing

open Syntax Judgement

/-- A place begins within another one. -/
def BeginsIn (s t : Span) : Prop := t.start ≤ s.start ∧ s.start < t.stop

instance (s t : Span) : Decidable (BeginsIn s t) := inferInstanceAs (Decidable (_ ∧ _))

theorem BeginsIn.within {s t u : Span} (h : BeginsIn s t) (within : t.Within u) :
    BeginsIn s u :=
  ⟨Nat.le_trans within.1 h.1, Nat.lt_of_lt_of_le h.2 within.2⟩

theorem BeginsIn.lt {s s' t t' : Span} (h : BeginsIn s t) (h' : BeginsIn s' t')
    (before : t.Before t') : s.start < s'.start :=
  Nat.lt_of_lt_of_le h.2 (Nat.le_trans before h'.1)

/-! ## Judgements

Two properties of judgements that hold of everything the checker does, and what becomes of them when
one check follows another.
-/

namespace Judgement

variable {α β : Type} {j : Judgement α}

/-- A judgement with a result reports nothing. -/
def Plain (j : Judgement α) : Prop := ∀ a, j.outcome = .ok a → j.reported = []

/-- The judgement accepts, or it has one problem, at a place. -/
inductive At (span : Span) : Judgement α → Prop where
  | accept (a : α) : At span (accept a)
  | reject (problem : SemanticProblem) : At span (reject problem span)

theorem At.plain {span : Span} (h : At span j) : j.Plain := by
  cases h <;> exact fun _ _ => rfl

theorem At.length_problems {span : Span} (h : At span j) : j.problems.length ≤ 1 := by
  cases h with
  | accept => exact Nat.zero_le 1
  | reject => exact Nat.le_refl 1

theorem At.span_eq {span : Span} (h : At span j) : ∀ f ∈ j.problems, f.span = span := by
  cases h with
  | accept => exact List.forall_mem_nil _
  | reject problem => exact List.forall_mem_singleton.mpr rfl

theorem At.ite {c : Prop} [Decidable c] {a : α} {problem : SemanticProblem} {span : Span} :
    At span (if c then Judgement.accept a else Judgement.reject problem span) := by
  split
  · exact .accept a
  · exact .reject problem

theorem Plain.andThen (h : j.Plain) {f : α → Judgement β} (next : ∀ a, (f a).Plain) :
    (j.andThen f).Plain := by
  obtain ⟨reported, outcome⟩ := j
  cases outcome with
  | error e => exact nofun -- the first check has no result, so all problems are its own
  | ok a => -- the first check has a result, and with it no problem
    obtain rfl : reported = [] := h a rfl
    exact next a

/-- A check goes on without problems, or ends with those that it has. -/
theorem Plain.problems_andThen (h : j.Plain) (f : α → Judgement β) :
    (∃ a, j.problems = [] ∧ (j.andThen f).problems = (f a).problems) ∨
      j.problems ≠ [] ∧ (j.andThen f).problems = j.problems := by
  obtain ⟨reported, outcome⟩ := j
  cases outcome with
  | error e => exact .inr ⟨List.append_ne_nil_of_right_ne_nil _ (List.cons_ne_nil e []), rfl⟩
  | ok a =>
    obtain rfl : reported = [] := h a rfl
    refine .inl ⟨a, rfl, ?_⟩
    unfold Judgement.andThen problems
    dsimp only
    rw [List.nil_append]

/-- What comes behind a check without problems has at most one, if it looks at one place. -/
theorem Plain.problems_andThen_at (h : j.Plain) {f : α → Judgement β} {span : Span}
    (next : ∀ a, At span (f a)) :
    (j.andThen f).problems = j.problems ∨
      j.problems = [] ∧ ∃ k : Judgement β, At span k ∧ (j.andThen f).problems = k.problems := by
  rcases h.problems_andThen f with ⟨a, free, same⟩ | ⟨-, same⟩
  · exact .inr ⟨free, f a, next a, same⟩
  · exact .inl same

/-- Something was reported exactly if there are several problems. -/
theorem Plain.reported_eq_nil_iff (h : j.Plain) : j.reported = [] ↔ j.problems.length ≤ 1 := by
  obtain ⟨reported, outcome⟩ := j
  cases outcome with
  | error e =>
    show reported = [] ↔ (reported ++ [e]).length ≤ 1
    rw [List.length_append, List.length_singleton, ← List.length_eq_zero_iff]
    omega
  | ok a =>
    obtain rfl : reported = [] := h a rfl
    exact ⟨fun _ => Nat.zero_le 1, fun _ => rfl⟩

end Judgement

theorem at_unaryType (op : UnaryOp) (type : TypeName) (span : Span) :
    At span (unaryType op type span) := by
  unfold unaryType
  split
  · exact .accept _
  · exact .accept _
  · exact .reject _

theorem at_binaryType (op : BinaryOp) (left right : TypeName) (span : Span) :
    At span (binaryType op left right span) := by
  unfold binaryType
  split <;> exact .ite

theorem problems_conclude (args : Arguments) (answer : TypeName) :
    (args.conclude answer).problems = args.reported ++ args.failures := by
  unfold Arguments.conclude
  split
  · next empty =>
    rw [List.getLast?_eq_none_iff.mp empty, List.append_nil]
    rfl
  · next last some =>
    obtain ⟨front, failures⟩ := List.getLast?_eq_some_iff.mp some
    show args.reported ++ args.failures.dropLast ++ [last] = _
    rw [failures, List.dropLast_concat, List.append_assoc]

/-! ## Expressions

An argument has problems of its own, or none and possibly the wrong type. Either way it adds to the
call what `argumentProblems` says, in two portions: what it reported and what it passes on.
-/

variable {ctx : Context}

theorem argumentFailures_eq_nil_iff {b : Builtin} {position : Nat} {param : Param} {span : Span}
    {outcome : Except Finding TypeName} :
    argumentFailures b position param span outcome = [] ↔ outcome = .ok param.type := by
  cases outcome with
  | error e => exact ⟨nofun, nofun⟩
  | ok found =>
    unfold argumentFailures
    by_cases same : found = param.type
    · simp [same]
    · simp [same]

/-- What one argument adds to the problems of a call. -/
def argumentProblems (ctx : Context) (b : Builtin) (position : Nat) (param : Param) (arg : Expr) :
    List Finding :=
  (check ctx arg).reported ++
    argumentFailures b position param arg.span (check ctx arg).outcome

/-- An argument adds its own problems, or its type if it has none. -/
theorem argumentProblems_cases (b : Builtin) (position : Nat) (param : Param) {arg : Expr}
    (plain : (check ctx arg).Plain) :
    argumentProblems ctx b position param arg = (check ctx arg).problems ∨
      (check ctx arg).problems = [] ∧
        ∃ problem, argumentProblems ctx b position param arg = [⟨problem, arg.span⟩] := by
  unfold argumentProblems
  rcases judged : check ctx arg with ⟨reported, e | found⟩
  · exact .inl rfl
  · -- the argument has a type, so a wrong one is the only problem
    rw [judged] at plain
    obtain rfl : reported = [] := plain found rfl
    by_cases same : found = param.type
    · exact .inl (if_pos same)
    · exact .inr ⟨rfl, _, if_neg same⟩

theorem reported_checkArguments {b : Builtin} {position : Nat} {params : List Param}
    {args : List Expr} (each : ∀ arg ∈ args, (check ctx arg).Plain)
    (free : (checkArguments ctx b position params args).failures = []) :
    (checkArguments ctx b position params args).reported = [] := by
  induction args generalizing position params with
  | nil => cases params <;> rfl
  | cons arg args ih =>
    cases params with
    | nil => rfl
    | cons param params =>
      obtain ⟨here, later⟩ := List.forall_mem_cons.mp each
      simp only [checkArguments, List.append_eq_nil_iff] at free ⊢
      exact ⟨here _ (argumentFailures_eq_nil_iff.mp free.1), ih later free.2⟩

/-- An expression that has a type reports nothing. -/
theorem plain_check (ctx : Context) (e : Expr) : (check ctx e).Plain := by
  induction e using Expr.induction with
  | number | string | boolean =>
    rw [check]
    exact fun _ _ => rfl
  | var name span =>
    rw [check]
    split <;> exact fun _ _ => rfl
  | unary op operand span ih =>
    rw [check]
    exact ih.andThen fun type => (at_unaryType op type span).plain
  | binary op left right span ihl ihr =>
    rw [check]
    exact ihl.andThen fun l => ihr.andThen fun r => (at_binaryType op l r span).plain
  | call b args span ih =>
    rw [check]
    split
    · unfold Arguments.conclude
      split
      · next empty =>
        exact fun _ _ => reported_checkArguments ih (List.getLast?_eq_none_iff.mp empty)
      · intro type typed
        cases typed
    · exact fun _ _ => rfl

/-! ## Where the problems lie

A problem begins within an expression if it begins within a part, since the parts lie within the
whole, or if its place is that of the whole. An expression is not empty, so its own place begins
within itself.
-/

theorem beginsIn_of_nested {e : Expr} (nested : e.Nested) : BeginsIn e.span e.span :=
  ⟨Nat.le_refl _, nested.nonempty⟩

/-- A check and what comes behind it have their problems within a place if both look at places in
it. -/
theorem beginsIn_andThen {α β : Type} {j : Judgement α} (plain : j.Plain) {f : α → Judgement β}
    {place t : Span} (next : ∀ a, At place (f a)) (here : BeginsIn place t)
    (inside : ∀ g ∈ j.problems, BeginsIn g.span t) :
    ∀ g ∈ (j.andThen f).problems, BeginsIn g.span t := by
  rcases plain.problems_andThen_at next with same | ⟨-, k, at_k, same⟩
  · rw [same]
    exact inside
  · rw [same]
    exact fun g mem => at_k.span_eq g mem ▸ here

theorem beginsIn_argumentProblems (b : Builtin) (position : Nat) (param : Param) {arg : Expr}
    (nested : arg.Nested) (each : ∀ f ∈ (check ctx arg).problems, BeginsIn f.span arg.span) :
    ∀ f ∈ argumentProblems ctx b position param arg, BeginsIn f.span arg.span := by
  rcases argumentProblems_cases b position param (plain_check ctx arg) with
    same | ⟨-, problem, same⟩
  · rw [same]
    exact each
  · rw [same]
    exact List.forall_mem_singleton.mpr (beginsIn_of_nested nested)

/-- The problems of arguments begin within the arguments. -/
theorem beginsIn_checkArguments (b : Builtin) (position : Nat) (params : List Param)
    {args : List Expr} (nested : ∀ arg ∈ args, arg.Nested)
    (each : ∀ arg ∈ args, ∀ f ∈ (check ctx arg).problems, BeginsIn f.span arg.span) :
    ∀ f ∈ (checkArguments ctx b position params args).reported ++
        (checkArguments ctx b position params args).failures,
      ∃ arg ∈ args, BeginsIn f.span arg.span := by
  induction args generalizing position params with
  | nil =>
    cases params <;> exact List.forall_mem_nil _
  | cons arg args ih =>
    cases params with
    | nil => exact List.forall_mem_nil _
    | cons param params =>
      obtain ⟨nested, nested'⟩ := List.forall_mem_cons.mp nested
      obtain ⟨here, later⟩ := List.forall_mem_cons.mp each
      have first := beginsIn_argumentProblems b position param nested here
      have rest := ih (position + 1) params nested' later
      intro f mem
      -- reports come before failures, so those of the first argument are not in one piece
      have split : f ∈ argumentProblems ctx b position param arg ∨
          f ∈ (checkArguments ctx b (position + 1) params args).reported ++
            (checkArguments ctx b (position + 1) params args).failures := by
        simp only [checkArguments, argumentProblems, List.mem_append] at mem ⊢
        tauto
      rcases split with mem | mem
      · exact ⟨arg, List.mem_cons_self, first f mem⟩
      · obtain ⟨arg', mem', begins⟩ := rest f mem
        exact ⟨arg', List.mem_cons_of_mem _ mem', begins⟩

/-- The problems of an expression begin within it. -/
theorem beginsIn_check (ctx : Context) {e : Expr} (nested : e.Nested) :
    ∀ f ∈ (check ctx e).problems, BeginsIn f.span e.span := by
  induction e using Expr.induction with
  | number | string | boolean =>
    rw [check]
    exact List.forall_mem_nil _
  | var name span =>
    rw [check]
    split
    · exact List.forall_mem_nil _
    · exact List.forall_mem_singleton.mpr (beginsIn_of_nested nested)
  | unary op operand span ih =>
    have mem : operand ∈ (Expr.unary op operand span).parts := List.mem_cons_self
    rw [check]
    refine beginsIn_andThen (plain_check ctx operand) (fun type => at_unaryType op type span)
      (beginsIn_of_nested nested) fun f found => ?_
    exact (ih (nested.part mem) f found).within (nested.row.within _ mem)
  | binary op left right span ihl ihr =>
    have mem : left ∈ (Expr.binary op left right span).parts := List.mem_cons_self
    have mem' : right ∈ (Expr.binary op left right span).parts :=
      List.mem_cons_of_mem _ List.mem_cons_self
    rw [check]
    rcases (plain_check ctx left).problems_andThen fun l =>
      (check ctx right).andThen fun r => binaryType op l r span with ⟨l, -, same⟩ | ⟨-, same⟩
    · -- the left operand has no problem
      rw [same]
      refine beginsIn_andThen (plain_check ctx right) (fun r => at_binaryType op l r span)
        (beginsIn_of_nested nested) fun f found => ?_
      exact (ihr (nested.part mem') f found).within (nested.row.within _ mem')
    · -- the left operand has problems, and the right one is not looked at
      rw [same]
      exact fun f found => (ihl (nested.part mem) f found).within (nested.row.within _ mem)
  | call b args span ih =>
    rw [check]
    split
    · rw [problems_conclude]
      intro f found
      obtain ⟨arg, mem, begins⟩ := beginsIn_checkArguments b 1 b.params
        (fun arg mem => nested.part mem) (fun arg mem => ih arg mem (nested.part mem)) f found
      exact begins.within (nested.row.within arg mem)
    · exact List.forall_mem_singleton.mpr (beginsIn_of_nested nested)

/-! ## Statements

A statement has at most one expression that the checker looks into. A jump to a label that does not
exist has none: its condition is not looked at.
-/

/-- The expression of a statement that the checker looks into, if there is one. -/
def lookedInto? (ctx : Context) (s : Stmt) : Option Expr :=
  match s.action with
  | .assign _ value => some value
  | .label _ => none
  | .goTo label condition => if label ∈ ctx.labels then some condition else none
  | .call b args => some (.call b args s.span)

theorem nested_of_lookedInto {s : Stmt} (nested : s.Nested) {e : Expr}
    (looked : e ∈ lookedInto? ctx s) : e.Nested ∧ e.span.Within s.span := by
  obtain ⟨action, span⟩ := s
  cases action with
  | assign name value =>
    cases looked
    exact ⟨nested.each _ List.mem_cons_self, nested.row.within _ List.mem_cons_self⟩
  | label => cases looked
  | goTo label condition =>
    unfold lookedInto? at looked
    dsimp only at looked
    split at looked
    · cases looked
      exact ⟨nested.each _ List.mem_cons_self, nested.row.within _ List.mem_cons_self⟩
    · cases looked
  | call b args =>
    cases looked
    exact ⟨.intro nested.nonempty nested.row nested.each, Nat.le_refl _, Nat.le_refl _⟩

/-- A statement of which an expression is looked into has the problems of the expression, or one at
most behind it. -/
theorem problems_cases_of_lookedInto {s : Stmt} {e : Expr} {f : TypeName → Judgement Context}
    {place : Span} (checks : checkStmt ctx s = (check ctx e).andThen f)
    (looked : lookedInto? ctx s = some e)
    (within : place = s.span ∨ ∃ e ∈ s.exprs, place = e.span) (next : ∀ type, At place (f type)) :
    (∃ e ∈ lookedInto? ctx s, (checkStmt ctx s).problems = (check ctx e).problems) ∨
      (∀ e ∈ lookedInto? ctx s, (check ctx e).problems = []) ∧
        ∃ (span : Span) (j : Judgement Context),
          (span = s.span ∨ ∃ e ∈ s.exprs, span = e.span) ∧ At span j ∧
            (checkStmt ctx s).problems = j.problems := by
  rw [checks, looked]
  rcases (plain_check ctx e).problems_andThen_at next with same | ⟨free, j, at_j, same⟩
  · exact .inl ⟨e, rfl, same⟩
  · refine .inr ⟨fun e' mem => ?_, place, j, within, at_j, same⟩
    cases mem
    exact free

/-- The problems of a statement are those of the expression that is looked into, or that has none
and there is at most one, with the statement or with an expression of it as a whole. -/
theorem problems_checkStmt_cases (ctx : Context) (s : Stmt) :
    (∃ e ∈ lookedInto? ctx s, (checkStmt ctx s).problems = (check ctx e).problems) ∨
      (∀ e ∈ lookedInto? ctx s, (check ctx e).problems = []) ∧
        ∃ (span : Span) (j : Judgement Context),
          (span = s.span ∨ ∃ e ∈ s.exprs, span = e.span) ∧ At span j ∧
            (checkStmt ctx s).problems = j.problems := by
  obtain ⟨action, span⟩ := s
  cases action with
  | assign name value =>
    refine problems_cases_of_lookedInto rfl rfl (.inl rfl) fun type => ?_
    split
    · exact .reject _
    split
    · exact .accept _
    · exact .ite
  | label name => exact .inr ⟨nofun, span, .accept ctx, .inl rfl, .accept ctx, rfl⟩
  | goTo label condition => -- a label that exists, and then the condition
    by_cases known : label ∈ ctx.labels
    · exact problems_cases_of_lookedInto (if_pos known) (if_pos known)
        (.inr ⟨condition, List.mem_cons_self, rfl⟩) fun type => .ite
    · have checks : checkStmt ctx ⟨.goTo label condition, span⟩ =
          .reject (.undefinedLabel label) span := if_neg known
      have looked : lookedInto? ctx ⟨.goTo label condition, span⟩ = none := if_neg known
      rw [checks, looked]
      exact .inr ⟨nofun, span, _, .inl rfl, .reject _, rfl⟩
  | call b args =>
    exact problems_cases_of_lookedInto rfl rfl (.inl rfl) fun type => .accept ctx

/-- The problems of a statement begin within it. -/
theorem beginsIn_checkStmt (ctx : Context) {s : Stmt} (nested : s.Nested) :
    ∀ f ∈ (checkStmt ctx s).problems, BeginsIn f.span s.span := by
  intro f mem
  rcases problems_checkStmt_cases ctx s with
    ⟨e, looked, same⟩ | ⟨-, span, j, place, at_j, same⟩
  · rw [same] at mem
    obtain ⟨inner, within⟩ := nested_of_lookedInto nested looked
    exact (beginsIn_check ctx inner f mem).within within
  · rw [same] at mem
    rw [at_j.span_eq f mem]
    rcases place with rfl | ⟨e, among, rfl⟩
    · exact ⟨Nat.le_refl _, nested.nonempty⟩
    · exact (beginsIn_of_nested (nested.each e among)).within (nested.row.within e among)

/-! ## Programs

The statements lie apart from each other, so a problem that begins within one of them begins within
no other. This sorts the problems of the whole program by statements, and the order among those of
one statement is the order in which they were found.
-/

/-- The problems among some that begin within a place. -/
def beginningIn (place : Span) (found : List Finding) : List Finding :=
  found.filter fun f => BeginsIn f.span place

theorem beginningIn_eq_nil {place : Span} {found : List Finding}
    (outside : ∀ f ∈ found, ¬ BeginsIn f.span place) : beginningIn place found = [] :=
  List.filter_eq_nil_iff.mpr fun f mem => by simpa using outside f mem

theorem beginningIn_eq_self {place : Span} {found : List Finding}
    (inside : ∀ f ∈ found, BeginsIn f.span place) : beginningIn place found = found :=
  List.filter_eq_self.mpr fun f mem => by simpa using inside f mem

theorem beginningIn_append (place : Span) (found found' : List Finding) :
    beginningIn place (found ++ found') = beginningIn place found ++ beginningIn place found' :=
  List.filter_append ..

theorem not_beginsIn_of_before {s t t' : Span} (h : BeginsIn s t)
    (apart : t.Before t' ∨ t'.Before t) : ¬ BeginsIn s t' := by
  intro h'
  rcases apart with before | before
  · exact Nat.lt_irrefl _ (h.lt h' before)
  · exact Nat.lt_irrefl _ (h'.lt h before)

variable {statements : List Stmt}

/-- The problems of labels are with labels, in the order of the statements. -/
theorem duplicateLabels_sublist (seen : List String) (statements : List Stmt) :
    ((duplicateLabels seen statements).map (·.span)).Sublist
      ((statements.filter fun s => s.label?.isSome).map (·.span)) := by
  fun_induction duplicateLabels seen statements with
  | case1 => exact .slnil
  | case2 seen s rest unlabelled ih => simpa [unlabelled] using ih
  | case3 seen s rest name labelled old ih => simpa [labelled] using ih
  | case4 seen s rest name labelled new ih => simpa [labelled] using ih.cons s.span

theorem exists_of_mem_duplicateLabels {seen : List String} {f : Finding}
    (mem : f ∈ duplicateLabels seen statements) :
    ∃ s ∈ statements, s.label?.isSome = true ∧ f.span = s.span := by
  have among := (duplicateLabels_sublist seen statements).mem (List.mem_map_of_mem mem)
  obtain ⟨s, mem, same⟩ := List.mem_map.mp among
  obtain ⟨mem, labelled⟩ := List.mem_filter.mp mem
  exact ⟨s, mem, labelled, same.symm⟩

theorem exists_of_mem_checkAll (nested : ∀ s ∈ statements, s.Nested) {ctx : Context} {f : Finding}
    (mem : f ∈ checkAll ctx statements) : ∃ s ∈ statements, BeginsIn f.span s.span := by
  induction statements generalizing ctx with
  | nil => cases mem
  | cons s rest ih =>
    obtain ⟨here, later⟩ := List.forall_mem_cons.mp nested
    rcases List.mem_append.mp mem with mem | mem
    · exact ⟨s, List.mem_cons_self, beginsIn_checkStmt ctx here f mem⟩
    · obtain ⟨t, mem, begins⟩ := ih later mem
      exact ⟨t, List.mem_cons_of_mem _ mem, begins⟩

/-- The problems that begin within a statement are those that the checker found there. -/
theorem beginningIn_checkAll (nested : ∀ s ∈ statements, s.Nested)
    (ordered : statements.Pairwise fun s t => s.span.Before t.span) (ctx : Context) {i : Nat}
    (h : i < statements.length) :
    beginningIn statements[i].span (checkAll ctx statements) =
      (checkStmt ((statements.take i).foldl contextAfter ctx) statements[i]).problems := by
  induction statements generalizing ctx i with
  | nil => cases h
  | cons s rest ih =>
    obtain ⟨here, later⟩ := List.forall_mem_cons.mp nested
    obtain ⟨behind, row⟩ := List.pairwise_cons.mp ordered
    rw [checkAll, beginningIn_append]
    cases i with
    | zero => -- the first statement: its own problems, and none of those behind it
      have free : beginningIn s.span (checkAll (contextAfter ctx s) rest) = [] := by
        refine beginningIn_eq_nil fun f mem => ?_
        obtain ⟨t, mem, begins⟩ := exists_of_mem_checkAll later mem
        exact not_beginsIn_of_before begins (.inr (behind t mem))
      have all := beginningIn_eq_self (beginsIn_checkStmt ctx here)
      show beginningIn s.span _ ++ beginningIn s.span _ = _
      rw [free, all, List.append_nil]
      rfl
    | succ i => -- a later statement: none of the problems of the first
      have h : i < rest.length := Nat.lt_of_succ_lt_succ h
      have free : beginningIn rest[i].span (checkStmt ctx s).problems = [] := by
        refine beginningIn_eq_nil fun f mem => ?_
        exact not_beginsIn_of_before (beginsIn_checkStmt ctx here f mem)
          (.inl (behind _ (List.getElem_mem h)))
      show beginningIn rest[i].span _ ++ beginningIn rest[i].span _ = _
      rw [free, List.nil_append, ih later row (contextAfter ctx s) h]
      rfl

/-- Of two different statements one lies in front of the other. -/
theorem before_or_before (ordered : statements.Pairwise fun s t => s.span.Before t.span) {i j : Nat}
    (h : i < statements.length) (h' : j < statements.length) (other : i ≠ j) :
    statements[i].span.Before statements[j].span ∨
      statements[j].span.Before statements[i].span := by
  have apart := List.pairwise_iff_getElem.mp ordered
  rcases Nat.lt_or_gt_of_ne other with lt | lt
  · exact .inl (apart i j h h' lt)
  · exact .inr (apart j i h' h lt)

/-- Only a label has problems of labels within it. -/
theorem beginningIn_duplicateLabels (nested : ∀ s ∈ statements, s.Nested)
    (ordered : statements.Pairwise fun s t => s.span.Before t.span) (seen : List String) {i : Nat}
    (h : i < statements.length) (unlabelled : ¬ statements[i].label?.isSome = true) :
    beginningIn statements[i].span (duplicateLabels seen statements) = [] := by
  refine beginningIn_eq_nil fun f mem => ?_
  obtain ⟨s, mem, labelled, place⟩ := exists_of_mem_duplicateLabels mem
  obtain ⟨j, h', rfl⟩ := List.getElem_of_mem mem
  have begins : BeginsIn f.span statements[j].span :=
    ⟨Nat.le_of_eq (by rw [place]), place ▸ (nested _ mem).nonempty⟩
  refine not_beginsIn_of_before begins (before_or_before ordered h' h ?_)
  rintro rfl
  exact unlabelled labelled

theorem checkStmt_of_label {s : Stmt} (labelled : s.label?.isSome = true) (ctx : Context) :
    (checkStmt ctx s).problems = [] ∧ lookedInto? ctx s = none := by
  obtain ⟨action, span⟩ := s
  cases action with
  | label name => exact ⟨rfl, rfl⟩
  | assign | goTo | call => cases labelled

variable {p : Program}

/-- Each problem of a program that nests begins within one statement, and no other. -/
theorem existsUnique_beginsIn (nested : p.Nested) {f : Finding} (mem : f ∈ analyze p) :
    ∃! i : Fin p.statements.toList.length, BeginsIn f.span (p.statements.toList.get i).span := by
  obtain ⟨s, among, begins⟩ : ∃ s ∈ p.statements.toList, BeginsIn f.span s.span := by
    rcases List.mem_append.mp mem with mem | mem
    · -- a problem of labels
      obtain ⟨s, among, -, place⟩ := exists_of_mem_duplicateLabels mem
      exact ⟨s, among, Nat.le_of_eq (by rw [place]), place ▸ (nested.each s among).nonempty⟩
    · -- a problem of some statement
      exact exists_of_mem_checkAll nested.each mem
  obtain ⟨i, rfl⟩ := List.get_of_mem among
  refine ⟨i, begins, fun j begins' => ?_⟩
  by_contra other
  have apart := before_or_before nested.ordered i.isLt j.isLt fun same => other (Fin.ext same.symm)
  exact not_beginsIn_of_before begins apart begins'

end BrushScript.Typing
