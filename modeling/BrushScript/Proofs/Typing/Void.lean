import BrushScript.Proofs.Typing.Soundness

/-!
# Calls without a value

A command gives no value, so a call of a command has the type `void`. A program built by hand may
hold such a call inside an expression. Every rule of the checker asks for an operand or an argument
of some other type, except equality, which asks for two operands of the same type. So an accepted
program calls commands inside expressions only in pairs that are compared for equality:
`void_calls_compared`. Without such a comparison no run stops because a value is missing;
`compared_fills` is a program with one.

The type tells such calls from everything else, as long as no variable has it: the call of a command
has it (`eq_void_of_isCommand`), and nothing else does (`isCommand_of_check`). That no variable has
it is an invariant of the contexts (`Context.Valued`), since an assignment of such a call is
refused.
-/

namespace BrushScript

open Syntax Typing Typing.Judgement

/-- Two calls of commands compared for equality. -/
def Syntax.Expr.comparesCommands : Expr → Bool
  | .binary .eq left right _ | .binary .ne left right _ => left.isCommand && right.isCommand
  | _ => false

namespace Typing

variable {p : Program} {ctx : Context} {e : Expr} {type : TypeName}

/-! ## The type of a call without a value

What each construct does with the type. Operators ask their operands for other types and never have
it themselves; parameters never have it; of the two comparisons it matters only that both operands
have the same type.
-/

/-- Every variable that is known has a value. -/
def Context.Valued (ctx : Context) : Prop := ∀ name, ctx.types.get? name ≠ some .void

theorem eq_void_of_isCommand (command : e.isCommand = true) (judged : check ctx e = accept type) :
    type = .void := by
  cases e with
  | number | string | boolean | var | unary | binary => cases command
  | call b args span =>
    obtain ⟨-, rfl, -⟩ := arguments_of_check judged
    cases b with
    | command c => rfl
    | query q => cases command

theorem unaryType_ne_void {op : UnaryOp} {operand : TypeName} {span : Span}
    (judged : unaryType op operand span = accept type) : operand ≠ .void ∧ type ≠ .void := by
  unfold unaryType at judged
  split at judged
  · cases accept_inj.mp judged
    exact ⟨by decide, by decide⟩
  · cases accept_inj.mp judged
    exact ⟨by decide, by decide⟩
  · exact absurd judged reject_ne_accept

/-- Operands without a value are accepted side by side only, and by equality only. -/
theorem binaryType_void {op : BinaryOp} {left right : TypeName} {span : Span}
    (judged : binaryType op left right span = accept type) :
    type ≠ .void ∧ (left = .void ∨ right = .void →
      (op = .eq ∨ op = .ne) ∧ left = .void ∧ right = .void) := by
  cases op <;> simp only [binaryType, ite_eq_accept_iff] at judged
  case add | sub | mul | div | mod | pow | lt | gt | le | ge | and | or =>
    obtain ⟨⟨rfl, rfl⟩, rfl⟩ := judged
    exact ⟨by decide, by rintro (void | void) <;> cases void⟩
  case eq =>
    obtain ⟨rfl, rfl⟩ := judged
    exact ⟨by decide, fun void => ⟨.inl rfl, or_self_iff.mp void, or_self_iff.mp void⟩⟩
  case ne =>
    obtain ⟨rfl, rfl⟩ := judged
    exact ⟨by decide, fun void => ⟨.inr rfl, or_self_iff.mp void, or_self_iff.mp void⟩⟩

/-- Nothing but the call of a command is accepted without a value. -/
theorem isCommand_of_check (valued : ctx.Valued) (judged : check ctx e = accept .void) :
    e.isCommand = true := by
  cases e with
  | number | string | boolean => cases accept_inj.mp judged
  | var name span =>
    simp only [check] at judged
    split at judged
    · next known =>
      cases accept_inj.mp judged
      exact absurd known (valued name)
    · exact absurd judged reject_ne_accept
  | unary op operand span => -- an operator gives a number or a truth value
    obtain ⟨_, -, judged⟩ := andThen_eq_accept_iff.mp judged
    exact absurd rfl (unaryType_ne_void judged).2
  | binary op left right span =>
    simp only [check, andThen_eq_accept_iff] at judged
    obtain ⟨_, -, _, -, judged⟩ := judged
    exact absurd rfl (binaryType_void judged).1
  | call b args span => -- a query has an answer, so the call is one of a command
    obtain ⟨-, answer, -⟩ := arguments_of_check judged
    cases b with
    | command c => rfl
    | query q => cases q <;> cases answer

/-- No parameter takes a call without a value. -/
theorem param_ne_void {b : Builtin} {param : Param} (mem : param ∈ b.params) :
    param.type ≠ .void := by
  cases b with
  | command c => cases c <;> revert param <;> decide
  | query q => cases q <;> revert param <;> decide

/-! ## Expressions

An accepted expression has accepted parts, down to every depth. So what is said about one expression
and its parts holds wherever in it the call stands.
-/

/-- The checker finds nothing wrong with an expression. -/
def Accepts (ctx : Context) (e : Expr) : Prop := ∃ type, check ctx e = accept type

theorem Accepts.part {part : Expr} (accepts : Accepts ctx e) (mem : part ∈ e.parts) :
    Accepts ctx part := by
  obtain ⟨type, judged⟩ := accepts
  cases e with
  | number | string | boolean | var => cases mem
  | unary op operand span =>
    obtain ⟨found, judged, -⟩ := andThen_eq_accept_iff.mp judged
    cases List.mem_singleton.mp mem
    exact ⟨found, judged⟩
  | binary op left right span =>
    simp only [check, andThen_eq_accept_iff] at judged
    obtain ⟨l, judgedLeft, r, judgedRight, -⟩ := judged
    rcases Expr.mem_parts_binary.mp mem with rfl | rfl
    · exact ⟨l, judgedLeft⟩
    · exact ⟨r, judgedRight⟩
  | call b args span =>
    obtain ⟨count, -, each⟩ := arguments_of_check judged
    obtain ⟨param, pair⟩ := exists_param count mem
    exact ⟨_, each _ pair⟩

/-- In an accepted expression, a part that calls a command is compared with another one. -/
theorem compares_of_part (valued : ctx.Valued) (accepts : Accepts ctx e) {part : Expr}
    (mem : part ∈ e.parts) (command : part.isCommand = true) : e.comparesCommands = true := by
  obtain ⟨type, judged⟩ := accepts
  cases e with
  | number | string | boolean | var => cases mem
  | unary op operand span => -- no operator on one operand takes such a call
    obtain ⟨found, judgedOperand, accepted⟩ := andThen_eq_accept_iff.mp judged
    cases List.mem_singleton.mp mem
    exact absurd (eq_void_of_isCommand command judgedOperand) (unaryType_ne_void accepted).1
  | binary op left right span => -- equality takes two of them, and no other operator takes one
    simp only [check, andThen_eq_accept_iff] at judged
    obtain ⟨l, judgedLeft, r, judgedRight, judged⟩ := judged
    have void : l = .void ∨ r = .void := by
      rcases Expr.mem_parts_binary.mp mem with rfl | rfl
      · exact .inl (eq_void_of_isCommand command judgedLeft)
      · exact .inr (eq_void_of_isCommand command judgedRight)
    obtain ⟨equality, rfl, rfl⟩ := (binaryType_void judged).2 void
    have both : (left.isCommand && right.isCommand) = true := Bool.and_eq_true_iff.mpr
      ⟨isCommand_of_check valued judgedLeft, isCommand_of_check valued judgedRight⟩
    rcases equality with rfl | rfl <;> exact both
  | call b args span => -- no parameter takes such a call
    obtain ⟨count, -, each⟩ := arguments_of_check judged
    obtain ⟨param, pair⟩ := exists_param count mem
    have void := eq_void_of_isCommand command (each _ pair)
    exact absurd void (param_ne_void (List.of_mem_zip pair).1)

/-- Two compared calls of commands are among the parts. -/
theorem exists_command_of_compares (compares : e.comparesCommands = true) :
    ∃ part ∈ e.parts, part.isCommand = true := by
  unfold Expr.comparesCommands at compares
  split at compares
  · exact ⟨_, List.mem_cons_self, (Bool.and_eq_true_iff.mp compares).1⟩
  · exact ⟨_, List.mem_cons_self, (Bool.and_eq_true_iff.mp compares).1⟩
  · cases compares

/-! ## Statements

The expressions of a statement are themselves no such calls: an assignment has been refused, a
condition is a truth value, and a command takes arguments with values.
-/

/-- The expressions of an accepted statement have values, and so does a variable that becomes
known. -/
theorem valued_of_checkStmt {ctx' : Context} {s : Stmt} (accepted : checkStmt ctx s = accept ctx')
    (valued : ctx.Valued) :
    ctx'.Valued ∧ ∀ e ∈ s.exprs, ∃ type, type ≠ .void ∧ check ctx e = accept type := by
  have checked := checked_of_checkStmt accepted
  unfold checkStmt at accepted
  unfold Stmt.exprs
  generalize s.action = a at *
  cases checked with
  | @bind name value type new judged =>
    -- the checker refuses to assign it
    have value : type ≠ .void := by
      rintro rfl
      simp only [judged, andThen_eq_accept_iff, accept_inj, exists_eq_left', if_pos] at accepted
      exact reject_ne_accept accepted
    refine ⟨fun other known => ?_, List.forall_mem_singleton.mpr ⟨type, value, judged⟩⟩
    rw [Scope.get?_set] at known
    split at known
    · exact value (Option.some.inj known)
    · exact valued other known
  | @rebind name value type known judged =>
    refine ⟨valued, List.forall_mem_singleton.mpr ⟨type, ?_, judged⟩⟩
    rintro rfl
    exact valued name known
  | label => exact ⟨valued, List.forall_mem_nil _⟩
  | goTo _ judged =>
    exact ⟨valued, List.forall_mem_singleton.mpr ⟨.boolean, by decide, judged⟩⟩
  | @call b args span type judged =>
    obtain ⟨count, -, each⟩ := arguments_of_check judged
    refine ⟨valued, fun e mem => ?_⟩
    obtain ⟨param, pair⟩ := exists_param count mem
    exact ⟨_, param_ne_void (List.of_mem_zip pair).1, each _ pair⟩

theorem valued_contextAt (accepted : analyze p = []) {i : Nat} (h : i ≤ p.statements.size) :
    (contextAt p i).Valued := by
  induction i with
  | zero =>
    intro name known
    cases known
  | succ i ih =>
    have before := ih (Nat.le_of_succ_le h)
    exact (valued_of_checkStmt (checkStmt_of_analyze accepted h) before).1

/-- The expressions of the statements of a program without problems were accepted, and have
values. -/
theorem exists_check_of_analyze (accepted : analyze p = []) {s : Stmt}
    (mem : s ∈ p.statements.toList) : ∃ ctx : Context, ctx.Valued ∧
      ∀ e ∈ s.exprs, ∃ type, type ≠ .void ∧ check ctx e = accept type := by
  obtain ⟨i, lt, rfl⟩ := List.getElem_of_mem mem
  have here : i < p.statements.size := by simpa using lt
  have valued := valued_contextAt accepted (Nat.le_of_lt here)
  exact ⟨_, valued, (valued_of_checkStmt (checkStmt_of_analyze accepted here) valued).2⟩

/-! ## Programs

From statements to programs, and from expressions to everything inside them. The theorem reads in
both directions, since two calls that are compared are parts that call commands.
-/

/-- In an accepted program no expression of a statement is itself the call of a command. -/
theorem isCommand_eq_false_of_exprs (accepted : analyze p = []) {s : Stmt}
    (mem : s ∈ p.statements.toList) (among : e ∈ s.exprs) : e.isCommand = false := by
  obtain ⟨ctx, -, each⟩ := exists_check_of_analyze accepted mem
  obtain ⟨type, value, judged⟩ := each e among
  exact Bool.eq_false_iff.mpr fun command => value (eq_void_of_isCommand command judged)

/-- In an accepted program a part that calls a command is compared with another one. -/
theorem compares_of_contains (accepted : analyze p = []) (inside : p.Contains e) {part : Expr}
    (mem : part ∈ e.parts) (command : part.isCommand = true) : e.comparesCommands = true := by
  obtain ⟨s, mem', top, among, inside⟩ := inside
  obtain ⟨ctx, valued, each⟩ := exists_check_of_analyze accepted mem'
  obtain ⟨type, -, judged⟩ := each top among
  have whole : Accepts ctx top := ⟨type, judged⟩
  exact compares_of_part valued (inside.keeps whole Accepts.part) mem command

/-- An accepted program calls commands inside expressions if and only if it compares such calls. -/
theorem commandFree_iff_compares (accepted : analyze p = []) :
    p.CommandFree ↔ ∀ e, p.Contains e → e.comparesCommands = false := by
  rw [Program.commandFree_iff]
  constructor
  · intro none e inside
    refine Bool.eq_false_iff.mpr fun compares => ?_
    obtain ⟨part, mem, command⟩ := exists_command_of_compares compares
    exact Bool.eq_false_iff.mp (none part (inside.part mem)) command
  · rintro none d ⟨s, mem, e, among, inside⟩
    refine Bool.eq_false_iff.mpr fun command => ?_
    rcases inside.eq_or_part with rfl | ⟨above, inside, part⟩
    · -- the expression of the statement itself
      exact Bool.eq_false_iff.mp (isCommand_eq_false_of_exprs accepted mem among) command
    · -- a part of some expression above it
      have holds : p.Contains above := ⟨s, mem, e, among, inside⟩
      have compares := compares_of_contains accepted holds part command
      exact Bool.eq_false_iff.mp (none above holds) compares

end Typing

/-- A comparison of two calls of commands never has a value. -/
theorem Machine.eval_of_compares {e : Expr} (compares : e.comparesCommands = true) (m : Machine)
    (resolver : Option ColorResolver) : ∃ c, m.eval resolver e = .error (.noValue c) := by
  have first {op : BinaryOp} {left right : Expr} {span : Span} (command : left.isCommand = true) :
      ∃ c, m.eval resolver (.binary op left right span) = .error (.noValue c) := by
    unfold Expr.isCommand at command
    split at command
    · next c args span' => exact ⟨c, by rw [eval, eval]; rfl⟩
    · cases command
  unfold Expr.comparesCommands at compares
  split at compares
  · exact first (Bool.and_eq_true_iff.mp compares).1
  · exact first (Bool.and_eq_true_iff.mp compares).1
  · cases compares

/-- Wherever an accepted program calls a command inside an expression, the call is compared for
equality with another such call, and the comparison faults when it is evaluated. If there is no such
comparison, and only then, no expression calls a command, and no run stops because a value is
missing. -/
theorem void_calls_compared (p : Program) (accepted : analyze p = []) :
    (∀ s ∈ p.statements.toList, ∀ e ∈ s.exprs, e.isCommand = false) ∧
    (∀ e, p.Contains e → ∀ part ∈ e.parts, part.isCommand = true →
      e.comparesCommands = true ∧ ∀ (m : Machine) resolver, ∃ c,
        m.eval resolver e = .error (.noValue c)) ∧
    (p.CommandFree ↔ ∀ e, p.Contains e → e.comparesCommands = false) ∧
    ((∀ e, p.Contains e → e.comparesCommands = false) → ∀ options canvas c span,
      (p.run options canvas).result ≠ .error (.fault ⟨.noValue c, span⟩)) := by
  have free_iff := commandFree_iff_compares accepted
  refine ⟨fun s mem e among => isCommand_eq_false_of_exprs accepted mem among,
    fun e inside part mem command => ?_, free_iff, fun none options canvas c span stopped => ?_⟩
  · have compares := compares_of_contains accepted inside mem command
    exact ⟨compares, Machine.eval_of_compares compares⟩
  -- the program halts over labels or at a statement, and neither fault is of that kind
  obtain ⟨e, same, twice, -⟩ | ⟨s, reaches, halts⟩ := State.stop_cases stopped
  · obtain ⟨label, fault⟩ := State.fault_of_duplicateLabel? twice
    cases same
    cases fault
  · have free := free_iff.mpr none
    cases halts.isTyping_eq_false free accepted (reaches.agrees free accepted)

theorem void_calls_compared_countdown :
    analyze State.countdown = [] ∧ State.countdown.CommandFree ∧
      ∀ options canvas c span,
        (State.countdown.run options canvas).result ≠ .error (.fault ⟨.noValue c, span⟩) := by
  have accepted : analyze State.countdown = [] := by decide
  have free : State.countdown.CommandFree := by decide
  obtain ⟨-, -, free_iff, runs⟩ := void_calls_compared State.countdown accepted
  exact ⟨accepted, free, runs (free_iff.mp free)⟩

/-- A program that compares two calls of `Fill`. -/
def fills : Program :=
  ⟨#[⟨.assign "same" (.binary .eq (.call (.command .fill) [] default)
    (.call (.command .fill) [] default) default), default⟩]⟩

/-- The checker finds nothing wrong with a comparison of two calls of a command, which stops every
run. -/
theorem compared_fills :
    analyze fills = [] ∧ ¬ fills.CommandFree ∧ ∀ options canvas,
      (fills.run options canvas).result = .error (.fault ⟨.noValue .fill, default⟩) := by
  refine ⟨by decide, by decide, fun options canvas => ?_⟩
  have halts : State.Halts options (State.start fills canvas) (.fault ⟨.noValue .fill, default⟩)
      canvas := .assign Nat.zero_lt_one rfl rfl
  show ((State.start fills canvas).run options).result = _
  rw [← (State.Execution.halt halts).eq_run]

end BrushScript
