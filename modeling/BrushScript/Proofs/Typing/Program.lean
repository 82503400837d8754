import BrushScript.Machine.Run
import BrushScript.Proofs.Typing.HasType

/-!
# Programs without problems

What it means for a whole program that the checker found nothing. The checker reads the statements
once, in the order of the text; `contextAt p i` is what it knows in front of statement `i`, and
`finalTypes p` are the types of the variables at the end. `actionTyped_of_analyze` says that every
statement follows the rules under the final types, wherever a jump comes from, and
`records_of_finalTypes` that the final type of a variable is the one found for its first assignment.

`Checked ctx a ctx'` turns the check of one statement into a relation with a rule for each kind, so
that what follows is a case analysis on what was accepted. The contexts only grow
(`Checked.mono`): a variable keeps the type of its first assignment, because a second assignment is
accepted with the same type only.
-/

namespace BrushScript.Typing

open Syntax Judgement

variable {p : Program}

/-! ## One statement

An assignment has two rules, one for a variable that is new and one for a variable that is known.
Only the first one changes the context.
-/

/-- What the checker accepted in a statement, and the context after it. -/
inductive Checked (ctx : Context) : Action → Context → Prop where
  | bind {name : String} {value : Expr} {type : TypeName} (new : ctx.types.get? name = none)
      (typed : check ctx value = accept type) :
      Checked ctx (.assign name value) { ctx with types := ctx.types.set name type }
  | rebind {name : String} {value : Expr} {type : TypeName}
      (known : ctx.types.get? name = some type) (typed : check ctx value = accept type) :
      Checked ctx (.assign name value) ctx
  | label {name : String} : Checked ctx (.label name) ctx
  | goTo {label : String} {condition : Expr} (target : label ∈ ctx.labels)
      (typed : check ctx condition = accept .boolean) : Checked ctx (.goTo label condition) ctx
  | call {b : Builtin} {args : List Expr} {span : Span} {type : TypeName}
      (typed : check ctx (.call b args span) = accept type) : Checked ctx (.call b args) ctx

theorem checked_of_checkStmt {ctx ctx' : Context} {s : Stmt}
    (accepted : checkStmt ctx s = accept ctx') : Checked ctx s.action ctx' := by
  unfold checkStmt at accepted
  split at accepted
  next name value action =>
    -- the value, a value of no type, a new variable and a known one
    obtain ⟨type, typed, accepted⟩ := andThen_eq_accept_iff.mp accepted
    split at accepted
    · exact absurd accepted reject_ne_accept
    split at accepted
    · next new =>
      cases accept_inj.mp accepted
      exact action ▸ .bind new typed
    · next bound known =>
      obtain ⟨rfl, rfl⟩ := ite_eq_accept_iff.mp accepted
      exact action ▸ .rebind known typed
  next name action =>
    cases accept_inj.mp accepted
    exact action ▸ .label
  next label condition action =>
    split at accepted
    · next target =>
      obtain ⟨type, typed, accepted⟩ := andThen_eq_accept_iff.mp accepted
      obtain ⟨rfl, rfl⟩ := ite_eq_accept_iff.mp accepted
      exact action ▸ .goTo target typed
    · exact absurd accepted reject_ne_accept
  next b args action =>
    obtain ⟨type, typed, accepted⟩ := andThen_eq_accept_iff.mp accepted
    cases accept_inj.mp accepted
    exact action ▸ .call typed

theorem Checked.labels_eq {ctx ctx' : Context} {a : Action} (h : Checked ctx a ctx') :
    ctx'.labels = ctx.labels := by
  cases h <;> rfl

/-- A type that is known stays what it is. -/
theorem Checked.mono {ctx ctx' : Context} {a : Action} (h : Checked ctx a ctx') {name : String}
    {type : TypeName} (known : ctx.types.get? name = some type) :
    ctx'.types.get? name = some type := by
  cases h with
  | bind new typed =>
    rw [Scope.get?_set]
    split
    · next same => simp [same, new] at known
    · exact known
  | rebind | label | goTo | call => exact known

/-! ## The statements in their order

The checker folds its contexts along the statements. Without problems the context behind a statement
is the one that its check gave, so neighbouring contexts are related by `Checked`.
-/

/-- What the checker knows in front of a statement. -/
def contextAt (p : Program) (i : Nat) : Context :=
  (p.statements.toList.take i).foldl contextAfter ⟨labelsOf p.statements.toList, .empty⟩

/-- The types of the variables when the whole program has been read. -/
def finalTypes (p : Program) : Scope TypeName := (contextAt p p.statements.size).types

theorem contextAt_succ {i : Nat} (h : i < p.statements.size) :
    contextAt p (i + 1) = contextAfter (contextAt p i) p.statements[i] := by
  have within : i < p.statements.toList.length := by simpa using h
  unfold contextAt
  rw [List.take_succ_eq_append_getElem within, List.foldl_append]
  rfl

theorem checkAll_eq_nil {ctx : Context} {statements : List Stmt}
    (accepted : checkAll ctx statements = []) (i : Nat) (h : i < statements.length) :
    (checkStmt ((statements.take i).foldl contextAfter ctx) statements[i]).problems = [] := by
  induction statements generalizing ctx i with
  | nil => simp at h
  | cons s rest ih =>
    obtain ⟨first, later⟩ := List.append_eq_nil_iff.mp accepted
    cases i with
    | zero => exact first
    | succ i => exact ih later i (by simpa using h)

/-- Each statement of a program without problems was accepted, and gave the context of the next. -/
theorem checkStmt_of_analyze (accepted : analyze p = []) {i : Nat} (h : i < p.statements.size) :
    checkStmt (contextAt p i) p.statements[i] = accept (contextAt p (i + 1)) := by
  have all := (List.append_eq_nil_iff.mp accepted).2
  obtain ⟨ctx', accepted⟩ := problems_eq_nil_iff.mp (checkAll_eq_nil all i (by simpa using h))
  have after : contextAt p (i + 1) = ctx' := by
    rw [contextAt_succ h]
    show contextAfter _ p.statements.toList[i] = ctx'
    unfold contextAfter
    rw [contextAt, accepted]
    rfl
  rw [after]
  exact accepted

theorem checked_of_analyze (accepted : analyze p = []) {i : Nat} (h : i < p.statements.size) :
    Checked (contextAt p i) p.statements[i].action (contextAt p (i + 1)) :=
  checked_of_checkStmt (checkStmt_of_analyze accepted h)

theorem labels_contextAt (accepted : analyze p = []) {i : Nat} (h : i ≤ p.statements.size) :
    (contextAt p i).labels = labelsOf p.statements.toList := by
  induction i with
  | zero => rfl
  | succ i ih =>
    rw [(checked_of_analyze accepted h).labels_eq]
    exact ih (Nat.le_of_succ_le h)

/-- A type that is known in front of a statement is known in front of all later ones. -/
theorem contextAt_mono (accepted : analyze p = []) {i j : Nat} (le : i ≤ j)
    (h : j ≤ p.statements.size) {name : String} {type : TypeName}
    (known : (contextAt p i).types.get? name = some type) :
    (contextAt p j).types.get? name = some type := by
  induction le with
  | refl => exact known
  | step _ ih => exact (checked_of_analyze accepted h).mono (ih (Nat.le_of_succ_le h))

/-- Behind its first assignment a variable is known. -/
theorem isSome_contextAt (accepted : analyze p = []) {i j : Nat} (lt : i < j)
    (h : j ≤ p.statements.size) {name : String} {value : Expr}
    (assigns : p.statements[i].action = .assign name value) :
    ∃ type, (contextAt p j).types.get? name = some type := by
  have checked := checked_of_analyze accepted (Nat.lt_of_lt_of_le lt h)
  rw [assigns] at checked
  have here : ∃ type, (contextAt p (i + 1)).types.get? name = some type := by
    generalize contextAt p (i + 1) = ctx' at checked
    cases checked with
    | bind => exact ⟨_, by rw [Scope.get?_set, if_pos rfl]⟩
    | rebind known => exact ⟨_, known⟩
  exact here.imp fun type known => contextAt_mono accepted lt h known

/-! ## The types on record

The record of a variable is its first assignment in the text and the type found there, in front of
which the checker does not know the variable.
-/

/-- The type that the checker found for the first assignment to a variable in the text. -/
def Records (p : Program) (name : String) (type : TypeName) : Prop :=
  ∃ (i : Nat) (h : i < p.statements.size) (value : Expr),
    p.statements[i].action = .assign name value ∧
    (∀ (j : Nat) (lt : j < i) (value' : Expr), p.statements[j].action ≠ .assign name value') ∧
    (check (contextAt p i) value).outcome = .ok type

theorem records_of_contextAt (accepted : analyze p = []) {i : Nat} (h : i ≤ p.statements.size)
    {name : String} {type : TypeName} (known : (contextAt p i).types.get? name = some type) :
    Records p name type := by
  induction i with
  | zero => cases known
  | succ i ih =>
    have before := ih (Nat.le_of_succ_le h)
    have checked := checked_of_analyze accepted h
    generalize action : p.statements[i].action = a at checked
    generalize contextAt p (i + 1) = ctx' at checked known
    cases checked with
    | @bind name' value type' new typed => -- the variable may be the one that has just become known
      rw [Scope.get?_set] at known
      split at known
      · next same =>
        cases known
        subst same
        refine ⟨i, h, value, action, fun j lt value' assigns => ?_, by rw [typed]; rfl⟩
        -- an earlier assignment would have made the variable known here
        obtain ⟨_, earlier⟩ := isSome_contextAt accepted lt (Nat.le_of_succ_le h) assigns
        simp [new] at earlier
      · exact before known
    | rebind | label | goTo | call => exact before known

/-- The final type of a variable is the one on record. -/
theorem records_of_finalTypes (accepted : analyze p = []) {name : String} {type : TypeName}
    (known : (finalTypes p).get? name = some type) : Records p name type :=
  records_of_contextAt accepted (Nat.le_refl _) known

/-! ## Statements under the final types

The same rules with one scope of types for all statements. What the checker knew in front of a
statement is part of what it knew at the end, and the typing rules stay valid when more is known.
-/

/-- A statement follows the rules, given the types of all variables and the labels. -/
inductive ActionTyped (types : Scope TypeName) (labels : List String) : Action → Prop where
  | assign {name : String} {value : Expr} {type : TypeName} (known : types.get? name = some type)
      (typed : HasType types value type) : ActionTyped types labels (.assign name value)
  | label {name : String} : ActionTyped types labels (.label name)
  | goTo {label : String} {condition : Expr} (target : label ∈ labels)
      (typed : HasType types condition .boolean) : ActionTyped types labels (.goTo label condition)
  | call {b : Builtin} {args : List Expr} (count : args.length = b.arity)
      (each : ∀ pair ∈ b.params.zip args, HasType types pair.2 pair.1.type) :
      ActionTyped types labels (.call b args)

theorem actionTyped_of_analyze (free : p.CommandFree) (accepted : analyze p = []) {i : Nat}
    (h : i < p.statements.size) :
    ActionTyped (finalTypes p) (labelsOf p.statements.toList) p.statements[i].action := by
  have checked := checked_of_analyze accepted h
  have exprs : ∀ e ∈ p.statements[i].exprs, e.commandFree = true :=
    free _ (by simp)
  have labels := labels_contextAt accepted (Nat.le_of_lt h)
  -- what the checker knows in front of the statement or behind it, it knows at the end
  have before (name : String) (type : TypeName)
      (known : (contextAt p i).types.get? name = some type) :
      (finalTypes p).get? name = some type :=
    contextAt_mono accepted (Nat.le_of_lt h) (Nat.le_refl _) known
  have after (name : String) (type : TypeName)
      (known : (contextAt p (i + 1)).types.get? name = some type) :
      (finalTypes p).get? name = some type :=
    contextAt_mono accepted h (Nat.le_refl _) known
  unfold Stmt.exprs at exprs
  generalize p.statements[i].action = a at checked exprs
  generalize contextAt p (i + 1) = ctx' at checked after
  cases checked with
  | bind new typed =>
    have known := after _ _ (by rw [Scope.get?_set, if_pos rfl])
    have typedValue := hasType_of_check (exprs _ List.mem_cons_self) typed
    exact .assign known (typedValue.mono before)
  | rebind known typed =>
    have typedValue := hasType_of_check (exprs _ List.mem_cons_self) typed
    exact .assign (before _ _ known) (typedValue.mono before)
  | label => exact .label
  | goTo target typed =>
    have typedCondition := hasType_of_check (exprs _ List.mem_cons_self) typed
    rw [labels] at target
    exact .goTo target (typedCondition.mono before)
  | @call b args span type typed =>
    obtain ⟨count, -, each⟩ := arguments_of_check typed
    refine .call count fun pair mem => ?_
    have arg : pair.2 ∈ args := (List.of_mem_zip mem).2
    exact (hasType_of_check (exprs _ arg) (each pair mem)).mono before

/-! ## Labels

The check of labels and the search for one, as a run does them.
-/

theorem duplicateLabel?_eq_none {seen : List String} {statements : List Stmt}
    (accepted : duplicateLabels seen statements = []) : duplicateLabel? seen statements = none := by
  fun_induction duplicateLabels seen statements with
  | case1 => rfl
  | case2 seen s rest unlabelled ih =>
    rw [duplicateLabel?, unlabelled]
    exact ih accepted
  | case3 => cases accepted
  | case4 seen s rest name labelled new ih =>
    simp only [duplicateLabel?, labelled, if_neg new]
    exact ih accepted

theorem isSome_target? {label : String} (mem : label ∈ labelsOf p.statements.toList) :
    ∃ target, State.target? p label = some target := by
  obtain ⟨s, mem, labelled⟩ := List.mem_filterMap.mp mem
  rw [← Option.isSome_iff_exists, State.target?, Array.findIdx?_isSome]
  exact Array.any_eq_true'.mpr ⟨s, by simpa using mem, by simp [labelled]⟩

end BrushScript.Typing
