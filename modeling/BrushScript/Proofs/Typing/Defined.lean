import BrushScript.Proofs.Machine.Effect
import BrushScript.Proofs.Machine.Step
import BrushScript.Proofs.Typing.Evaluation
import BrushScript.Proofs.Typing.Program

/-!
# Variables are bound before they are read

The checker reads the statements once, in the order of the text, so what it knows in front of a
statement is what the statements above it assign. A run that jumps forward can leave assignments
out. If all jumps go back, it cannot: every variable that the checker knows in front of the
statement under the program counter is bound (`Covers`). A statement that leads to the next one
binds what the checker learns from it, and a jump back leads to where the checker knew less.
`backward_run_defined` is what that means for whole runs.

Three facts carry the invariant. A variable that is bound stays bound (`Step.binds`), since nothing
removes it from the scope. The checker learns of a variable by an assignment only, which is also
what binds it (`Checked.known`, `Step.binds_assigned`). And what is known in front of a statement is
known in front of all later ones, so going back means knowing less (`contextAt_mono`). The rest is
that an expression which the checker accepts reads only variables that are known (`HasType.known`).
-/

namespace BrushScript

open Syntax Typing

/-! ## Jumps that go back

That jumps go back is asked of the text: some statement with the label stands above the jump. The
jump then leads there or further up, as it takes the first such statement.
-/

/-- The label that a jump statement names. -/
def Syntax.Stmt.goesTo? (s : Stmt) : Option String :=
  match s.action with
  | .goTo label _ => some label
  | _ => none

/-- The label of every jump stands further up than the jump. -/
def Syntax.Program.JumpsBack (p : Program) : Prop :=
  ∀ i < p.statements.size, ∀ label ∈ p.statements[i]?.bind Stmt.goesTo?,
    ∃ j < i, p.statements[j]?.bind Stmt.label? = some label

instance (p : Program) : Decidable p.JumpsBack :=
  inferInstanceAs (Decidable (∀ i < p.statements.size,
    ∀ label ∈ p.statements[i]?.bind Stmt.goesTo?,
      ∃ j < i, p.statements[j]?.bind Stmt.label? = some label))

namespace State

variable {p : Program} {options : RunOptions} {s t : State p}

/-- A step goes on to the next statement or back. -/
theorem Step.pc_le (back : p.JumpsBack) (h : Step options s t) :
    t.pc = s.pc + 1 ∨ t.pc ≤ s.pc := by
  obtain on | ⟨here, label, condition, action, found⟩ := h.pc_eq
  · exact .inl on
  · have goes : p.statements[s.pc]?.bind Stmt.goesTo? = some label := by
      rw [Array.getElem?_eq_getElem here, Option.bind_some, Stmt.goesTo?, action]
    obtain ⟨j, above, labelled⟩ := back s.pc here label goes
    obtain ⟨_, _, first⟩ := target?_eq_some_iff.mp found
    -- the jump takes the first of the statements with its label
    have before : t.pc ≤ j := Nat.le_of_not_lt fun behind => first j behind labelled
    exact .inr (Nat.le_of_lt (Nat.lt_of_le_of_lt before above))

/-! ## Variables stay bound

In both lemmas only assignments matter, since every other statement leaves the scope as it is.
-/

/-- A variable is bound. -/
def Binds (s : State p) (name : String) : Prop := ∃ v, s.machine.scope.get? name = some v

theorem Step.binds (h : Step options s t) {name : String} (bound : s.Binds name) :
    t.Binds name := by
  cases h with
  | assign =>
    unfold Binds
    dsimp only
    rw [Scope.get?_set]
    split
    · exact ⟨_, rfl⟩
    · exact bound
  | label | jump => exact bound
  | @call _ _ m _ _ called =>
    show ∃ v, m.scope.get? name = some v
    rw [(Machine.follows_of_call called).scope_eq]
    exact bound

theorem Step.binds_assigned (h : Step options s t) {name : String} {value : Expr}
    (here : s.pc < p.statements.size)
    (assigns : p.statements[s.pc].action = .assign name value) : t.Binds name := by
  cases h with
  | assign _ action =>
    cases action.symm.trans assigns
    exact ⟨_, by rw [Scope.get?_set, if_pos rfl]⟩
  | label _ action => cases action.symm.trans assigns
  | jump _ action => cases action.symm.trans assigns
  | call _ action => cases action.symm.trans assigns

end State

/-! ## What the checker knows is bound

The same facts about the checker. The context in front of a statement and the one behind it differ
at an assignment to a new variable and nowhere else.
-/

namespace Typing

variable {p : Program} {ctx ctx' : Context}

/-- A variable becomes known by an assignment only. -/
theorem Checked.known {a : Action} (h : Checked ctx a ctx') {name : String} {type : TypeName}
    (known : ctx'.types.get? name = some type) :
    ctx.types.get? name = some type ∨ ∃ value, a = .assign name value := by
  cases h with
  | @bind name' value type' new typed =>
    rw [Scope.get?_set] at known
    split at known
    · next same => exact .inr ⟨value, by rw [same]⟩
    · exact .inl known
  | rebind | label | goTo | call => exact .inl known

/-- The variables of a typed expression are known. -/
theorem HasType.known {types : Scope TypeName} {e : Expr} {type : TypeName}
    (typed : HasType types e type) :
    ∀ name ∈ e.vars, ∃ type', types.get? name = some type' := by
  induction typed with
  | number | string | boolean => exact nofun
  | var known =>
    intro name mem
    cases List.mem_singleton.mp mem
    exact ⟨_, known⟩
  | neg _ ih | not _ ih => exact ih
  | arithmetic _ _ _ ihl ihr | order _ _ _ ihl ihr | equality _ _ _ ihl ihr
  | logic _ _ _ ihl ihr =>
    intro name mem
    rcases List.mem_append.mp mem with left | right
    · exact ihl name left
    · exact ihr name right
  | @query q args span count each ih =>
    -- arguments, one of which reads the variable
    intro name mem
    obtain ⟨arg, arg_mem, used⟩ := Expr.mem_allVars.mp mem
    obtain ⟨param, pair⟩ := exists_param count arg_mem
    exact ih _ pair name used

/-- The expressions of a statement that the checker accepted are typed by what it knew in front
of it. -/
theorem Checked.exists_hasType {s : Stmt} (h : Checked ctx s.action ctx')
    (free : ∀ e ∈ s.exprs, e.commandFree = true) :
    ∀ e ∈ s.exprs, ∃ type, HasType ctx.types e type := by
  unfold Stmt.exprs at *
  generalize s.action = a at *
  intro e mem
  cases h with
  | bind _ typed | rebind _ typed | goTo _ typed =>
    cases List.mem_singleton.mp mem
    exact ⟨_, hasType_of_check (free _ mem) typed⟩
  | label => cases mem
  | @call b args span type typed =>
    obtain ⟨count, -, each⟩ := arguments_of_check typed
    obtain ⟨param, pair⟩ := exists_param count mem
    exact ⟨_, hasType_of_check (free e mem) (each _ pair)⟩

end Typing

/-! ## Runs

The invariant holds at the start, where the checker knows nothing, and every step keeps it. It gives
the scope that the expressions under the program counter find, and with it that a halt there is over
something else.
-/

/-- The fault of a variable that is not bound. -/
abbrev Fault.isUndefinedVariable : Fault → Bool := among [.unbound]

namespace State

variable {p : Program} {options : RunOptions} {s t : State p}

/-- Every variable that the checker knows in front of the statement under the program counter is
bound. -/
def Covers (s : State p) : Prop :=
  ∀ name type, (contextAt p s.pc).types.get? name = some type → s.Binds name

theorem covers_start (p : Program) (canvas : Canvas) : Covers (start p canvas) := by
  intro name type known
  cases known

theorem covers_step (accepted : analyze p = []) (back : p.JumpsBack) (covers : s.Covers)
    (step : Step options s t) : t.Covers := by
  have here := step.pc_lt
  intro name type known
  rcases step.pc_le back with on | up
  · -- the checker knew the variable before, or learnt it from the statement just carried out
    rw [on] at known
    rcases (checked_of_analyze accepted here).known known with before | ⟨value, assigns⟩
    · exact step.binds (covers name type before)
    · exact step.binds_assigned here assigns
  · have before := contextAt_mono accepted up (Nat.le_of_lt here) known
    exact step.binds (covers name type before)

/-- The expressions of the statement under the program counter find their variables bound. -/
theorem Covers.raises_eval (covers : s.Covers) (free : p.CommandFree) (accepted : analyze p = [])
    (resolver : Option ColorResolver) (here : s.pc < p.statements.size) {e : Expr}
    (mem : e ∈ p.statements[s.pc].exprs) :
    Raises (fun f => f.isUndefinedVariable = false) (s.machine.eval resolver e) := by
  have checked := checked_of_analyze accepted here
  obtain ⟨type, typed⟩ := checked.exists_hasType (free _ (by simp)) e mem
  have position : Raises (·.isUndefinedVariable = false) s.machine.position :=
    s.machine.raises_position.allow (Fault.among_apart (by decide))
  refine Machine.raises_eval_within (Fault.among_apart (by decide)) position
    (fun _ => rfl) ?_
  intro name used unbound
  obtain ⟨type', known⟩ := typed.known name used
  obtain ⟨v, bound⟩ := covers name type' known
  cases unbound.symm.trans bound

theorem Halts.isUndefinedVariable_eq_false {e : RuntimeError} {canvas : Canvas}
    (free : p.CommandFree) (accepted : analyze p = []) (covers : s.Covers)
    (halts : Halts options s (.fault e) canvas) : e.fault.isUndefinedVariable = false := by
  have defined {e : Expr} (here : s.pc < p.statements.size)
      (mem : e ∈ p.statements[s.pc].exprs) :=
    covers.raises_eval free accepted options.resolver here mem
  cases halts with
  | @assign _ value _ here action evaluated => -- an assignment, with its value
    have result := defined here (e := value) (by rw [Stmt.exprs, action]; exact List.mem_cons_self)
    rw [evaluated] at result
    exact result
  | limit => rfl -- the limit, which evaluates nothing
  | @jump label condition _ _ here action _ _ fails => -- a jump, with its condition
    have result := defined here (e := condition)
      (by rw [Stmt.exprs, action]; exact List.mem_cons_self)
    have lands : Raises (fun f => f.isUndefinedVariable = false)
        (State.jump p options s.machine s.pc label condition) :=
      jump_within result (Fault.among_apart (by decide)) rfl
    rw [fails] at lands
    exact lands
  | @call b args _ _ here action called => -- a call, with its arguments and what it does with them
    have each (arg : Expr) (mem : arg ∈ args) := defined here (e := arg)
      (by rw [Stmt.exprs, action]; exact mem)
    have evaluated := Machine.raises_evalArguments (b := b)
      (Fault.among_apart (by decide)) each
    have position : Raises (·.isUndefinedVariable = false) s.machine.position :=
      s.machine.raises_position.allow (Fault.among_apart (by decide))
    have result := Machine.call_within evaluated (Fault.among_apart (by decide)) position
      fun _ _ => rfl
    rw [called] at result
    exact result.allowed_of_fault rfl

/-- A run of a program that the checker accepts, whose expressions call no command and whose jumps
all go back, does not stop over a variable that is not bound. -/
theorem backward_run_defined (p : Program) (free : p.CommandFree) (accepted : analyze p = [])
    (back : p.JumpsBack) (options : RunOptions) (canvas : Canvas) (name : String) (span : Span) :
    (p.run options canvas).result ≠ .error (.fault ⟨.undefinedVariable name, span⟩) := by
  intro stopped
  have distinct := duplicateLabel?_eq_none (List.append_eq_nil_iff.mp accepted).1
  obtain ⟨e, -, twice, -⟩ | ⟨s, reaches, halts⟩ := stop_cases stopped
  · cases distinct.symm.trans twice
  · have covers : s.Covers :=
      reaches.keeps (covers_start p canvas) fun covers step => covers_step accepted back covers step
    cases halts.isUndefinedVariable_eq_false free accepted covers

/-- A loop in a loop; the inner one begins with an assignment to its counter. -/
def nested : Program :=
  ⟨#[⟨.call (.command .spawn) [.number 0 default, .number 0 default], default⟩,
    ⟨.assign "n" (.number 0 default), default⟩,
    ⟨.label "outer", default⟩,
    ⟨.assign "k" (.number 0 default), default⟩,
    ⟨.label "inner", default⟩,
    ⟨.assign "k" (.binary .add (.var "k" default) (.number 1 default) default), default⟩,
    ⟨.goTo "inner" (.binary .lt (.var "k" default) (.number 2 default) default), default⟩,
    ⟨.assign "n" (.binary .add (.var "n" default) (.var "k" default) default), default⟩,
    ⟨.goTo "outer" (.binary .lt (.var "n" default) (.number 4 default) default), default⟩]⟩

theorem backward_run_defined_nested :
    nested.CommandFree ∧ analyze nested = [] ∧ nested.JumpsBack ∧
      ∀ name span, (nested.run ⟨none, 9⟩ (Canvas.filled 1 .white)).result ≠
        .error (.fault ⟨.undefinedVariable name, span⟩) := by
  have free : nested.CommandFree := by decide
  have accepted : analyze nested = [] := by decide
  have back : nested.JumpsBack := by decide
  exact ⟨free, accepted, back, backward_run_defined nested free accepted back _ _⟩

end State
end BrushScript
