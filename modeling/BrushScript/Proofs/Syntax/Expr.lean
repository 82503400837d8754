import BrushScript.Syntax.Program

/-!
# Expressions: induction, parts, variables, and those that call no command

`Expr.induction` is induction on expressions with a hypothesis for every argument of a call;
`Expr.Contains` are the expressions in an expression, at any depth, and `Expr.vars` its variables. A
command gives no value, but a program built by hand may call one inside an expression;
`Program.CommandFree` rules that out (`Program.commandFree_iff`), and says nothing about the
commands that are statements.

An expression is a tree with lists in it, so the induction that comes with the type has a second
motive for lists. None of the proofs about expressions needs it: whatever holds of all arguments of
a call is a statement about the members of a list.

What is to hold at every depth is defined by recursion if it is decided (`Expr.commandFree`) and by
`Expr.Contains` if it is only spoken of. `Expr.Contains.keeps` carries a property from the whole to
every expression in it, if each expression hands it on to its parts.
-/

namespace BrushScript.Syntax

namespace Expr

/-- Induction on expressions, with a hypothesis for each argument of a call. -/
@[elab_as_elim]
theorem induction {motive : Expr → Prop}
    (number : ∀ n span, motive (.number n span))
    (string : ∀ s span, motive (.string s span))
    (boolean : ∀ b span, motive (.boolean b span))
    (var : ∀ name span, motive (.var name span))
    (unary : ∀ op operand span, motive operand → motive (.unary op operand span))
    (binary : ∀ op left right span, motive left → motive right →
      motive (.binary op left right span))
    (call : ∀ b args span, (∀ arg ∈ args, motive arg) → motive (.call b args span)) :
    ∀ e, motive e
  | .number n span => number n span
  | .string s span => string s span
  | .boolean b span => boolean b span
  | .var name span => var name span
  | .unary op operand span =>
    unary op operand span (induction number string boolean var unary binary call operand)
  | .binary op left right span =>
    binary op left right span (induction number string boolean var unary binary call left)
      (induction number string boolean var unary binary call right)
  | .call b args span =>
    call b args span fun arg _ => induction number string boolean var unary binary call arg

/-- The expressions right below an expression, from left to right. -/
def parts : Expr → List Expr
  | .number _ _ | .string _ _ | .boolean _ _ | .var _ _ => []
  | .unary _ operand _ => [operand]
  | .binary _ left right _ => [left, right]
  | .call _ args _ => args

@[simp] theorem mem_parts_binary {op : BinaryOp} {left right part : Expr} {span : Span} :
    part ∈ (binary op left right span).parts ↔ part = left ∨ part = right := by
  simp [parts]

/-- An expression contains itself and, at any depth, what is below it. -/
inductive Contains : Expr → Expr → Prop where
  | self {e : Expr} : Contains e e
  | deeper {e part d : Expr} (mem : part ∈ e.parts) (inside : Contains part d) : Contains e d

/-- What every expression hands on to its parts, it hands on to all that it contains. -/
theorem Contains.keeps {Inv : Expr → Prop} {e d : Expr} (inside : e.Contains d) (start : Inv e)
    (part : ∀ {e part}, Inv e → part ∈ e.parts → Inv part) : Inv d := by
  induction inside with
  | self => exact start
  | deeper mem _ ih => exact ih (part start mem)

theorem Contains.trans {a b d : Expr} (inside : a.Contains b) (inside' : b.Contains d) :
    a.Contains d := by
  induction inside with
  | self => exact inside'
  | deeper mem _ ih => exact .deeper mem (ih inside')

/-- What an expression contains besides itself is a part of something that it contains. -/
theorem Contains.eq_or_part {e d : Expr} (inside : e.Contains d) :
    d = e ∨ ∃ above, e.Contains above ∧ d ∈ above.parts := by
  induction inside with
  | self => exact .inl rfl
  | @deeper e part d mem _ ih =>
    rcases ih with rfl | ⟨above, inside, among⟩
    · exact .inr ⟨e, .self, mem⟩
    · exact .inr ⟨above, .deeper mem inside, among⟩

/-- A call of a command, which gives no value. -/
def isCommand : Expr → Bool
  | .call (.command _) _ _ => true
  | _ => false

mutual

/-- No command is called in the expression, at any depth. -/
def commandFree : Expr → Bool
  | .number _ _ | .string _ _ | .boolean _ _ | .var _ _ => true
  | .unary _ operand _ => operand.commandFree
  | .binary _ left right _ => left.commandFree && right.commandFree
  | .call (.command _) _ _ => false
  | .call (.query _) args _ => allCommandFree args

/-- No command is called in any of the expressions. -/
def allCommandFree : List Expr → Bool
  | [] => true
  | e :: es => e.commandFree && allCommandFree es

end

theorem allCommandFree_iff {es : List Expr} :
    allCommandFree es = true ↔ ∀ e ∈ es, e.commandFree = true := by
  induction es with
  | nil => simp [allCommandFree]
  | cons e es ih => simp [allCommandFree, ih]

/-- Neither the expression nor one of its parts calls a command. -/
theorem commandFree_iff_parts {e : Expr} :
    e.commandFree = true ↔ e.isCommand = false ∧ ∀ part ∈ e.parts, part.commandFree = true := by
  cases e with
  | number | string | boolean | var | unary | binary => simp [commandFree, isCommand, parts]
  | call b args span =>
    cases b with
    | command c => simp [commandFree, isCommand]
    | query q => simp [commandFree, isCommand, parts, allCommandFree_iff]

theorem commandFree_iff {e : Expr} :
    e.commandFree = true ↔ ∀ d, e.Contains d → d.isCommand = false := by
  constructor
  · intro free d inside
    have free : d.commandFree = true :=
      inside.keeps free fun free mem => (commandFree_iff_parts.mp free).2 _ mem
    exact (commandFree_iff_parts.mp free).1
  · intro none
    -- on the expression: a part contains nothing that the whole does not contain
    induction e using Expr.induction with
    | number | string | boolean | var => rfl
    | unary op operand span ih =>
      exact ih fun d inside => none d (.deeper List.mem_cons_self inside)
    | binary op left right span ihl ihr =>
      refine commandFree_iff_parts.mpr ⟨rfl, List.forall_mem_cons.mpr ⟨?_, ?_⟩⟩
      · exact ihl fun d inside => none d (.deeper (mem_parts_binary.mpr (.inl rfl)) inside)
      · exact List.forall_mem_singleton.mpr
          (ihr fun d inside => none d (.deeper (mem_parts_binary.mpr (.inr rfl)) inside))
    | call b args span ih =>
      refine commandFree_iff_parts.mpr ⟨none _ .self, fun arg mem => ih arg mem ?_⟩
      exact fun d inside => none d (.deeper mem inside)

mutual

/-- The names of the variables in an expression, at any depth. -/
def vars : Expr → List String
  | .number _ _ | .string _ _ | .boolean _ _ => []
  | .var name _ => [name]
  | .unary _ operand _ => operand.vars
  | .binary _ left right _ => left.vars ++ right.vars
  | .call _ args _ => allVars args

/-- The names of the variables in any of the expressions. -/
def allVars : List Expr → List String
  | [] => []
  | e :: es => e.vars ++ allVars es

end

theorem mem_allVars {es : List Expr} {name : String} :
    name ∈ allVars es ↔ ∃ e ∈ es, name ∈ e.vars := by
  induction es with
  | nil => simp [allVars]
  | cons e es ih => simp [allVars, ih]

end Expr

/-- The expressions of a statement. -/
def Stmt.exprs (s : Stmt) : List Expr :=
  match s.action with
  | .assign _ value => [value]
  | .label _ => []
  | .goTo _ condition => [condition]
  | .call _ args => args

/-- An expression stands in the program, at any depth. -/
def Program.Contains (p : Program) (d : Expr) : Prop :=
  ∃ s ∈ p.statements.toList, ∃ e ∈ s.exprs, e.Contains d

theorem Program.Contains.part {p : Program} {e part : Expr} (inside : p.Contains e)
    (mem : part ∈ e.parts) : p.Contains part := by
  obtain ⟨s, mem', top, among, inside⟩ := inside
  exact ⟨s, mem', top, among, inside.trans (.deeper mem .self)⟩

/-- No expression of the program calls a command. -/
def Program.CommandFree (p : Program) : Prop :=
  ∀ s ∈ p.statements.toList, ∀ e ∈ s.exprs, e.commandFree = true

instance (p : Program) : Decidable p.CommandFree :=
  inferInstanceAs (Decidable (∀ s ∈ p.statements.toList, ∀ e ∈ s.exprs, e.commandFree = true))

theorem Program.commandFree_iff {p : Program} :
    p.CommandFree ↔ ∀ d, p.Contains d → d.isCommand = false := by
  simp only [CommandFree, Contains, Expr.commandFree_iff]
  constructor
  · rintro none d ⟨s, mem, e, mem', inside⟩
    exact none s mem e mem' d inside
  · intro none s mem e mem' d inside
    exact none d ⟨s, mem, e, mem', inside⟩

end BrushScript.Syntax
