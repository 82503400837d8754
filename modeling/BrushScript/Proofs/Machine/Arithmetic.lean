import BrushScript.Machine.Eval

/-!
# Arithmetic is exact

What an arithmetic expression comes to in whole numbers without bounds: `Expr.exact` is its value
and `Expr.operations` are the operations that lead there, in the order in which the machine carries
them out, each with its exact operands. An operation that divides by zero or leaves the 64-bit range
has no result. `eval_arithmetic` says that the machine gives the exact value if all operations have
a result, and otherwise faults over the first one that has none.

There is one operation without a result whose exact result would be in range: the remainder of the
least integer by `-1` is zero, but the quotient that belongs to it is one more than the greatest
integer, and the machine overflows (`eval_remainder_overflow`).

The proof has two layers. `Operation.perform` is what the machine makes of one operation, and each
operator of arithmetic is shown to be that on its operands. `ComesTo ops value r` relates a list of
operations and an exact value to a result of the machine; it composes along binds as the machine
evaluates its operands, so the induction on the expression has one step for each kind of expression.
-/

namespace BrushScript

open Syntax

/-! ## Quotients and remainders

A quotient is no greater than its dividend in absolute value. It can leave the range only if the
dividend is the least integer, whose absolute value is out of range itself, and the divisor `-1`.
-/

namespace Integer

theorem fits_of_natAbs_le {n : Int} (le : n.natAbs ≤ 0x7fffffffffffffff) : Fits n := by
  unfold Fits least greatest
  omega

/-- A quotient is in range, but for that of the least integer by `-1`. -/
theorem fits_tdiv {a b : Int} (fits : Fits a) (apart : ¬ (a = least ∧ b = -1)) :
    Fits (a.tdiv b) := by
  have size : (a.tdiv b).natAbs = a.natAbs / b.natAbs := Int.natAbs_tdiv a b
  unfold Fits least greatest at *
  by_cases edge : a = -0x8000000000000000
  · subst edge
    by_cases one : b = 1
    · subst one
      decide
    · -- any other divisor halves the dividend at least
      have smaller : (0x8000000000000000 : Nat) / b.natAbs ≤ 0x8000000000000000 / 2 := by
        by_cases zero : b = 0
        · simp [zero]
        · exact Nat.div_le_div_left (by omega) (by decide)
      apply fits_of_natAbs_le
      rw [size]
      exact Nat.le_trans smaller (by decide)
  · have smaller := Nat.div_le_self a.natAbs b.natAbs
    exact fits_of_natAbs_le (by omega)

end Integer

/-! ## Operations

The operations with their exact operands. `result` is what they would give without bounds;
`Succeeds` says when the machine can give it, and `fault` how it stops if it cannot.
-/

/-- An operation of arithmetic with its exact operands. -/
inductive Operation where
  | neg (a : Int)
  | add (a b : Int)
  | sub (a b : Int)
  | mul (a b : Int)
  | div (a b : Int)
  | mod (a b : Int)
  deriving DecidableEq, Repr

namespace Operation

/-- The exact result. A quotient loses its fraction, and a remainder is what the quotient leaves, so
that it has the sign of the dividend. -/
def result : Operation → Int
  | neg a => -a
  | add a b => a + b
  | sub a b => a - b
  | mul a b => a * b
  | div a b => a.tdiv b
  | mod a b => a.tmod b

/-- What is divided by. -/
def divisor? : Operation → Option Int
  | div _ b | mod _ b => some b
  | _ => none

/-- The operation has a result. -/
def Succeeds (o : Operation) : Prop :=
  o.divisor? ≠ some 0 ∧ Integer.Fits o.result ∧ o ≠ mod Integer.least (-1)

instance (o : Operation) : Decidable o.Succeeds := inferInstanceAs (Decidable (_ ∧ _ ∧ _))

/-- The operator that stands for the operation. -/
def operator : Operation → Operator
  | neg _ => .unary .neg
  | add _ _ => .binary .add
  | sub _ _ => .binary .sub
  | mul _ _ => .binary .mul
  | div _ _ => .binary .div
  | mod _ _ => .binary .mod

/-- The fault of the operation, if it has no result. -/
def fault : Operation → Fault
  | div _ 0 => .divisionByZero
  | mod _ 0 => .moduloByZero
  | o => .overflow o.operator

/-- What the machine makes of the operation. -/
def perform (o : Operation) : Except Fault Value :=
  if o.Succeeds then .ok (.number (Int64.ofInt o.result)) else .error o.fault

/-- The operation of a binary operator, if it is one of arithmetic. -/
def ofBinary? : BinaryOp → Option (Int → Int → Operation)
  | .add => some add
  | .sub => some sub
  | .mul => some mul
  | .div => some div
  | .mod => some mod
  | _ => none

end Operation

namespace Value

/-! ## The machine performs operations

Each operator in turn. Most of them compute the exact result and give it if it fits, which is
`map_ofInt`; a quotient and a remainder look at their divisor first, and a remainder at the quotient
that belongs to it.
-/

theorem ofInt_eq (op : Operator) (n : Int) :
    ofInt op n = if Integer.Fits n then .ok (Int64.ofInt n) else .error (.overflow op) := by
  unfold ofInt Integer.ofInt?
  by_cases fits : Integer.Fits n
  · rw [if_pos fits, if_pos fits]
  · rw [if_neg fits, if_neg fits]

/-- Whatever does not divide by zero gives its exact result if that is in range, apart from the one
remainder that does not. -/
theorem map_ofInt (o : Operation) (divisor : o.divisor? ≠ some 0)
    (apart : o ≠ .mod Integer.least (-1)) :
    (ofInt o.operator o.result).map number = o.perform := by
  have succeeds : o.Succeeds ↔ Integer.Fits o.result :=
    ⟨fun h => h.2.1, fun fits => ⟨divisor, fits, apart⟩⟩
  have fault : o.fault = .overflow o.operator := by
    unfold Operation.fault
    split
    · exact absurd rfl divisor
    · exact absurd rfl divisor
    · rfl
  rw [ofInt_eq, Operation.perform, fault]
  simp only [succeeds]
  split <;> rfl

theorem toInt_eq_zero_iff {n : Int64} : n.toInt = 0 ↔ n = 0 :=
  show n.toInt = (0 : Int64).toInt ↔ n = 0 from Int64.toInt_inj

theorem map_divide (a b : Int64) :
    (divide a b).map number = (Operation.div a.toInt b.toInt).perform := by
  unfold divide
  by_cases zero : b = 0
  · subst zero
    rfl
  · have divisor : some b.toInt ≠ some 0 := by simpa [toInt_eq_zero_iff] using zero
    rw [if_neg zero]
    exact map_ofInt (.div a.toInt b.toInt) divisor nofun

theorem map_modulo (a b : Int64) :
    (modulo a b).map number = (Operation.mod a.toInt b.toInt).perform := by
  unfold modulo
  by_cases zero : b = 0
  · subst zero
    rfl
  have divisor : some b.toInt ≠ some 0 := by simpa [toInt_eq_zero_iff] using zero
  rw [if_neg zero]
  by_cases edge : a.toInt = Integer.least ∧ b.toInt = -1
  · -- the remainder would be zero, but its quotient is out of range
    rw [edge.1, edge.2, if_neg (by decide)]
    rfl
  · rw [if_pos (Integer.fits_tdiv (Integer.fits_toInt a) edge)]
    exact map_ofInt (.mod a.toInt b.toInt) divisor (by simpa using edge)

/-- Negation is the operation on the operand. -/
theorem applyUnary_neg (n : Int64) :
    applyUnary .neg (number n) = (Operation.neg n.toInt).perform :=
  map_ofInt (.neg n.toInt) nofun nofun

/-- An operator of arithmetic is its operation on the operands. -/
theorem applyBinary_eq {op : BinaryOp} {operation : Int → Int → Operation}
    (kind : Operation.ofBinary? op = some operation) (a b : Int64) :
    applyBinary op (number a) (number b) = (operation a.toInt b.toInt).perform := by
  -- the five operators of arithmetic, in the order of their definition
  unfold Operation.ofBinary? at kind
  split at kind <;> cases kind
  · exact map_ofInt (.add a.toInt b.toInt) nofun nofun
  · exact map_ofInt (.sub a.toInt b.toInt) nofun nofun
  · exact map_ofInt (.mul a.toInt b.toInt) nofun nofun
  · exact map_divide a b
  · exact map_modulo a b

end Value

/-! ## Expressions

Only variables that hold numbers are arithmetic, so an expression that is arithmetic in one scope
need not be in another. Elsewhere `exact` and `operations` have values that mean nothing.
-/

namespace Syntax.Expr

/-- The expression is made of numbers, of variables that hold numbers, and of arithmetic. -/
inductive IsArithmetic (scope : Scope Value) : Expr → Prop where
  | number {n : Int64} {span : Span} : IsArithmetic scope (.number n span)
  | var {name : String} {n : Int64} {span : Span} (bound : scope.get? name = some (.number n)) :
      IsArithmetic scope (.var name span)
  | neg {operand : Expr} {span : Span} (inner : IsArithmetic scope operand) :
      IsArithmetic scope (.unary .neg operand span)
  | binary {op : BinaryOp} {operation : Int → Int → Operation} {left right : Expr} {span : Span}
      (kind : Operation.ofBinary? op = some operation) (first : IsArithmetic scope left)
      (second : IsArithmetic scope right) : IsArithmetic scope (.binary op left right span)

/-- The exact value of an arithmetic expression. -/
def exact (scope : Scope Value) : Expr → Int
  | .number n _ => n.toInt
  | .var name _ =>
    match scope.get? name with
    | some (.number n) => n.toInt
    | _ => 0
  | .unary .neg operand _ => -operand.exact scope
  | .binary op left right _ =>
    match Operation.ofBinary? op with
    | some operation => (operation (left.exact scope) (right.exact scope)).result
    | none => 0
  | _ => 0

/-- The operations of an arithmetic expression on their exact operands, from left to right and from
the inside out. -/
def operations (scope : Scope Value) : Expr → List Operation
  | .unary .neg operand _ => operand.operations scope ++ [.neg (operand.exact scope)]
  | .binary op left right _ =>
    match Operation.ofBinary? op with
    | some operation =>
      left.operations scope ++
        (right.operations scope ++ [operation (left.exact scope) (right.exact scope)])
    | none => []
  | _ => []

end Syntax.Expr

/-! ## Evaluation

The list of operations is cut at the first one without a result. In front of it all have theirs, and
what stands behind it is never looked at.
-/

/-- What a row of operations and its exact value come to on the machine: the value, or the fault of
the first operation that has no result. -/
inductive ComesTo (ops : List Operation) (value : Int) : Except Fault Value → Prop where
  | value {n : Int64} (all : ∀ o ∈ ops, o.Succeeds) (same : n.toInt = value) :
      ComesTo ops value (.ok (.number n))
  | fault {before after : List Operation} {o : Operation} (cut : ops = before ++ o :: after)
      (earlier : ∀ p ∈ before, p.Succeeds) (fails : ¬ o.Succeeds) :
      ComesTo ops value (.error o.fault)

namespace ComesTo

variable {ops more : List Operation} {a b : Int} {r : Except Fault Value}

theorem nothing (n : Int64) : ComesTo [] n.toInt (.ok (.number n)) := .value nofun rfl

theorem perform (o : Operation) : ComesTo [o] o.result o.perform := by
  unfold Operation.perform
  split
  · next succeeds =>
    exact .value (List.forall_mem_singleton.mpr succeeds) (Integer.toInt_ofInt succeeds.2.1)
  · next fails =>
    have alone : [o] = [] ++ o :: [] := rfl
    exact .fault alone nofun fails

/-- The operations go on where those before had their results. -/
theorem bind (h : ComesTo ops a r) {f : Value → Except Fault Value}
    (next : ∀ n : Int64, n.toInt = a → ComesTo more b (f (.number n))) :
    ComesTo (ops ++ more) b (r >>= f) := by
  cases h with
  | @value n all same => -- all operations before have results, so the rest decides
    have later := next n same
    show ComesTo _ _ (f (.number n))
    generalize f (.number n) = r at later
    cases later with
    | value all' same' =>
      exact .value (List.forall_mem_append.mpr ⟨all, all'⟩) same'
    | @fault before after o cut earlier fails =>
      have cut : ops ++ more = (ops ++ before) ++ o :: after := by rw [cut, List.append_assoc]
      exact .fault cut (List.forall_mem_append.mpr ⟨all, earlier⟩) fails
  | @fault before after o cut earlier fails =>
    -- an operation before has none, and the rest is not reached
    have cut : ops ++ more = before ++ o :: (after ++ more) := by
      rw [cut, List.append_assoc, List.cons_append]
    exact .fault cut earlier fails

end ComesTo

namespace Machine

theorem comesTo_eval (resolver : Option ColorResolver) (m : Machine) {e : Expr}
    (arithmetic : e.IsArithmetic m.scope) :
    ComesTo (e.operations m.scope) (e.exact m.scope) (m.eval resolver e) := by
  induction arithmetic with
  | @number n span => exact .nothing n
  | @var name n span bound =>
    simp only [Expr.operations, Expr.exact, eval, bound]
    exact .nothing n
  | @neg operand span _ ih => -- the operand, and then the negation
    refine ih.bind fun n same => ?_
    rw [Value.applyUnary_neg, same]
    exact .perform (.neg (operand.exact m.scope))
  | @binary op operation left right span kind _ _ ihl ihr =>
    -- the left operand, the right one, and then the operation on both
    simp only [Expr.operations, Expr.exact, eval, kind]
    refine ihl.bind fun a first => ihr.bind fun b second => ?_
    rw [Value.applyBinary_eq kind, first, second]
    exact .perform _

/-- An arithmetic expression is evaluated exactly if all its operations have a result. Otherwise it
faults over the first operation that has none. -/
theorem eval_arithmetic (resolver : Option ColorResolver) (m : Machine) {e : Expr}
    (arithmetic : e.IsArithmetic m.scope) :
    ((∀ o ∈ e.operations m.scope, o.Succeeds) ∧
      ∃ n : Int64, m.eval resolver e = .ok (.number n) ∧ n.toInt = e.exact m.scope) ∨
    ∃ before o after, e.operations m.scope = before ++ o :: after ∧
      (∀ p ∈ before, p.Succeeds) ∧ ¬ o.Succeeds ∧ m.eval resolver e = .error o.fault := by
  have comes := comesTo_eval resolver m arithmetic
  generalize m.eval resolver e = r at comes
  cases comes with
  | value all same => exact .inl ⟨all, _, rfl, same⟩
  | fault cut earlier fails => exact .inr ⟨_, _, _, cut, earlier, fails, rfl⟩

/-- A machine with a variable that holds seven. -/
def withSeven : Machine :=
  { start (Canvas.filled 1 .white) with scope := Scope.empty.set "n" (.number 7) }

/-- `n * 9223372036854775807 + 1 / 0`, where the product overflows before anything is divided. -/
def overflowing : Expr :=
  .binary .add
    (.binary .mul (.var "n" default) (.number 9223372036854775807 default) default)
    (.binary .div (.number 1 default) (.number 0 default) default) default

theorem eval_arithmetic_overflowing :
    overflowing.IsArithmetic withSeven.scope ∧
      ∃ before o after, overflowing.operations withSeven.scope = before ++ o :: after ∧
        (∀ p ∈ before, p.Succeeds) ∧ ¬ o.Succeeds ∧
        withSeven.eval none overflowing = .error o.fault := by
  have arithmetic : overflowing.IsArithmetic withSeven.scope :=
    .binary rfl (.binary rfl (.var rfl) .number) (.binary rfl .number .number)
  refine ⟨arithmetic, (eval_arithmetic none withSeven arithmetic).resolve_left ?_⟩
  rintro ⟨all, -⟩
  revert all
  decide

/-- `(-9223372036854775807 - 1) % -1`, the least integer modulo `-1`. -/
def leastRemainder : Expr :=
  .binary .mod
    (.binary .sub (.unary .neg (.number 9223372036854775807 default) default) (.number 1 default)
      default)
    (.unary .neg (.number 1 default) default) default

/-- An expression can overflow although it divides by nothing but `-1` and each of its operations
has an exact result in range. -/
theorem eval_remainder_overflow :
    leastRemainder.IsArithmetic withSeven.scope ∧
      (∀ o ∈ leastRemainder.operations withSeven.scope,
        o.divisor? ≠ some 0 ∧ Integer.Fits o.result) ∧
      leastRemainder.exact withSeven.scope = 0 ∧
      withSeven.eval none leastRemainder = .error (.overflow (.binary .mod)) := by
  refine ⟨?_, by decide, by decide, rfl⟩
  exact .binary rfl (.binary rfl (.neg .number) .number) (.neg .number)

end Machine

end BrushScript
