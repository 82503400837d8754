import BrushScript.Integer
import BrushScript.Machine.Fault

/-!
# Values and operators

A value is a number, a truth value or a text. Operators compute exactly and fault where the result
is no 64-bit integer or does not exist.

Every result that can leave the range goes through `ofInt`: it is computed as an integer of any
size, and is a value if it has 64 bits. So there is one place where an overflow is found, and it is
no wrap-around. Two operations have more to say. The remainder overflows with the quotient, and a
power is decided by its base or its exponent before it is computed, so that no number of
astronomical size is ever built.

An operator looks at its operands from left to right, and the first one of the wrong type is the one
that the fault is about. Equality takes two values of any types; those of different types differ.
-/

namespace BrushScript

open Syntax

/-- Values of a running program. -/
inductive Value where
  | number (n : Int64)
  | boolean (b : Bool)
  | string (s : String)
  deriving DecidableEq, Repr

namespace Value

/-- The type of a value. -/
def type : Value → TypeName
  | number _ => .number
  | boolean _ => .boolean
  | string _ => .string

/-! ## Numbers -/

/-- An exact result as a number, or an overflow. -/
def ofInt (op : Operator) (n : Int) : Except Fault Int64 :=
  match Integer.ofInt? n with
  | some n => .ok n
  | none => .error (.overflow op)

/-- The quotient towards zero. -/
def divide (a b : Int64) : Except Fault Int64 :=
  if b = 0 then .error .divisionByZero else ofInt (.binary .div) (a.toInt.tdiv b.toInt)

/-- The remainder of the quotient towards zero. It overflows with the quotient, although it would
itself be zero. -/
def modulo (a b : Int64) : Except Fault Int64 :=
  if b = 0 then .error .moduloByZero
  else if Integer.Fits (a.toInt.tdiv b.toInt) then
    ofInt (.binary .mod) (a.toInt.tmod b.toInt)
  else .error (.overflow (.binary .mod))

/-- The power. A negative exponent gives the reciprocal rounded towards zero, which is zero for
every base but `1`, `-1` and `0`; and a base other than those overflows from the exponent 64 on. -/
def power (base exponent : Int64) : Except Fault Int64 :=
  if base = 1 then .ok 1
  else if base = -1 then .ok (if exponent.toInt % 2 = 0 then 1 else -1)
  else if base = 0 then
    if exponent < 0 then .error .divisionByZero else .ok (if exponent = 0 then 1 else 0)
  else if exponent < 0 then .ok 0
  else if 64 ≤ exponent.toInt then .error (.overflow (.binary .pow))
  else ofInt (.binary .pow) (base.toInt.pow exponent.toInt.toNat)

/-! ## Operators -/

/-- A value of the wrong type for an operator. -/
def mismatch (op : Operator) (expected : TypeName) (found : Value) : Except Fault Value :=
  .error (.typeMismatch (.operand op) expected found.type)

/-- Apply a unary operator. -/
def applyUnary (op : UnaryOp) (v : Value) : Except Fault Value :=
  match op, v with
  | .neg, number n => (ofInt (.unary .neg) (-n.toInt)).map number
  | .not, boolean b => .ok (boolean !b)
  | .neg, other => mismatch (.unary .neg) .number other
  | .not, other => mismatch (.unary .not) .boolean other

/-- Both operands as numbers; the first that is none is the one reported. -/
def numbers (op : BinaryOp) (l r : Value) (f : Int64 → Int64 → Except Fault Value) :
    Except Fault Value :=
  match l, r with
  | number a, number b => f a b
  | number _, other => mismatch (.binary op) .number other
  | other, _ => mismatch (.binary op) .number other

/-- Both operands as truth values; the first that is none is the one reported. -/
def booleans (op : BinaryOp) (l r : Value) (f : Bool → Bool → Bool) : Except Fault Value :=
  match l, r with
  | boolean a, boolean b => .ok (boolean (f a b))
  | boolean _, other => mismatch (.binary op) .boolean other
  | other, _ => mismatch (.binary op) .boolean other

/-- Apply a binary operator to values that are both known. -/
def applyBinary (op : BinaryOp) (l r : Value) : Except Fault Value :=
  match op with
  | .eq => .ok (boolean (l = r))
  | .ne => .ok (boolean (l ≠ r))
  | .and => booleans .and l r (· && ·)
  | .or => booleans .or l r (· || ·)
  | .lt => numbers .lt l r fun a b => .ok (boolean (a < b))
  | .gt => numbers .gt l r fun a b => .ok (boolean (b < a))
  | .le => numbers .le l r fun a b => .ok (boolean (a ≤ b))
  | .ge => numbers .ge l r fun a b => .ok (boolean (b ≤ a))
  | .add => numbers .add l r fun a b => (ofInt (.binary .add) (a.toInt + b.toInt)).map number
  | .sub => numbers .sub l r fun a b => (ofInt (.binary .sub) (a.toInt - b.toInt)).map number
  | .mul => numbers .mul l r fun a b => (ofInt (.binary .mul) (a.toInt * b.toInt)).map number
  | .div => numbers .div l r fun a b => (divide a b).map number
  | .mod => numbers .mod l r fun a b => (modulo a b).map number
  | .pow => numbers .pow l r fun a b => (power a b).map number

end Value
end BrushScript
