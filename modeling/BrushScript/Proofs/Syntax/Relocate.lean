import BrushScript.Proofs.Syntax.Expr

/-!
# The same at other places

`Expr.relocate f` is an expression with every span changed by `f`, and likewise for whatever else
has a place. Two expressions are the same up to their places if they are the same once all spans are
forgotten (`Expr.bare`).

To forget a place is to move it to one place for all. So forgetting is a case of moving, and what is
shown of every way to move places holds of it as well: that the parser, the checker and the machine
do with moved tokens, expressions and statements what they did before.
-/

namespace BrushScript.Syntax

/-- The same thing at another place. -/
def Located.relocate {α : Type} (f : Span → Span) (t : Located α) : Located α := ⟨t.value, f t.span⟩

namespace Expr

mutual

/-- The expression with every span changed. -/
def relocate (f : Span → Span) : Expr → Expr
  | .number n span => .number n (f span)
  | .string s span => .string s (f span)
  | .boolean b span => .boolean b (f span)
  | .var name span => .var name (f span)
  | .unary op operand span => .unary op (operand.relocate f) (f span)
  | .binary op left right span => .binary op (left.relocate f) (right.relocate f) (f span)
  | .call b args span => .call b (relocateAll f args) (f span)

/-- The expressions with every span changed. -/
def relocateAll (f : Span → Span) : List Expr → List Expr
  | [] => []
  | e :: es => e.relocate f :: relocateAll f es

end

@[simp] theorem relocateAll_eq_map (f : Span → Span) (es : List Expr) :
    relocateAll f es = es.map (relocate f) := by
  induction es with
  | nil => rfl
  | cons e es ih => rw [relocateAll, ih, List.map_cons]

@[simp] theorem span_relocate (f : Span → Span) (e : Expr) : (e.relocate f).span = f e.span := by
  cases e <;> rfl

/-- The expression without its places. -/
def bare (e : Expr) : Expr := e.relocate fun _ => default

theorem bare_unary (op : UnaryOp) (operand : Expr) (span : Span) :
    (Expr.unary op operand span).bare = .unary op operand.bare default := rfl

theorem bare_binary (op : BinaryOp) (left right : Expr) (span : Span) :
    (Expr.binary op left right span).bare = .binary op left.bare right.bare default := rfl

@[simp] theorem bare_call (b : Builtin) (args : List Expr) (span : Span) :
    (Expr.call b args span).bare = .call b (args.map bare) default := by
  rw [bare, relocate, relocateAll_eq_map]
  rfl

theorem relocate_id (e : Expr) : e.relocate id = e := by
  induction e using Expr.induction with
  | number | string | boolean | var => rfl
  | unary op operand span ih => rw [relocate, ih]; rfl
  | binary op left right span ihl ihr => rw [relocate, ihl, ihr]; rfl
  | call b args span ih =>
    rw [relocate, relocateAll_eq_map, List.map_congr_left ih, List.map_id']
    rfl

end Expr

/-- The action with every span changed. -/
def Action.relocate (f : Span → Span) : Action → Action
  | .assign name value => .assign name (value.relocate f)
  | .label name => .label name
  | .goTo target condition => .goTo target (condition.relocate f)
  | .call b args => .call b (args.map (Expr.relocate f))

theorem Action.relocate_id (a : Action) : a.relocate id = a := by
  cases a with
  | assign name value => rw [relocate, Expr.relocate_id]
  | label => rfl
  | goTo target condition => rw [relocate, Expr.relocate_id]
  | call b args =>
    rw [relocate, List.map_congr_left fun e _ => Expr.relocate_id e, List.map_id']

/-- The statement with every span changed. -/
def Stmt.relocate (f : Span → Span) (s : Stmt) : Stmt := ⟨s.action.relocate f, f s.span⟩

theorem Stmt.label?_relocate (f : Span → Span) (s : Stmt) : (s.relocate f).label? = s.label? := by
  obtain ⟨action, span⟩ := s
  cases action <;> rfl

theorem Stmt.relocate_id (s : Stmt) : s.relocate id = s := by
  rw [relocate, Action.relocate_id]
  rfl

end BrushScript.Syntax
