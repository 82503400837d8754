import BrushScript.Machine.Run
import BrushScript.Proofs.Syntax.Expr

/-!
# Which faults a part of the machine can raise

The faults fall into families, and a part of the machine raises faults of some families only:
operators on numbers, queries, whole expressions, commands. `Fault.among` says that a fault is of
one of the families of a list. The classes that the theory speaks of are such lists, so that one
class lies within another (`Fault.among_mono`) or apart from it (`Fault.among_apart`) is decided by
looking at the lists.

`Meets allowed post r` says of a result that its fault, if it has one, is allowed, and its value, if
it has one, is as it should be. It composes along binds (`Meets.bind`), so each part of the machine
has one lemma, which holds for any faults that are allowed if those of the part are:
`meets_answer_within` for queries, `raises_eval_within` for expressions, `jump_within` for jumps.

Whoever needs a particular class takes it for `allowed`: the class of all faults of expressions
(`raises_eval`), or a smaller one where something is known, such as that the program is typed, that
all its variables are bound or that there is a robot.
-/

namespace BrushScript

open Syntax

/-! ## Families of faults

What a fault carries does not matter for where it comes from, so all is said of the families, and a
class of faults is a list of them. That one class lies within another one, or apart from it, is then
a look at two lists.
-/

namespace Fault

/-- Faults that come from the same parts of the machine. -/
inductive Family where
  | robot
  | color
  | division
  | overflow
  | value
  | unbound
  | check
  | line
  | target
  | label
  | limit
  deriving DecidableEq

/-- The family of a fault. -/
def family : Fault → Family
  | .notSpawned => .robot
  | .invalidColor _ => .color
  | .divisionByZero | .moduloByZero => .division
  | .overflow _ => .overflow
  | .typeMismatch _ _ _ | .argumentCount _ _ | .noValue _ => .value
  | .undefinedVariable _ => .unbound
  | .positionOutside _ _ _ | .centerOutside _ _ | .nonPositiveBrush | .invalidDirection _
  | .zeroDirection | .nonPositive _ _ | .negativeDistance => .check
  | .lineLeftCanvas _ => .line
  | .undefinedLabel _ => .target
  | .duplicateLabel _ => .label
  | .goToLimit _ _ => .limit

/-- The fault is of one of the families. -/
def among (families : List Family) (f : Fault) : Bool := families.contains f.family

variable {f g : Fault} {some others : List Family}

theorem among_iff : f.among some = true ↔ f.family ∈ some := List.contains_iff_mem

theorem among_mono (sub : ∀ k ∈ some, k ∈ others) (h : f.among some = true) :
    f.among others = true := among_iff.mpr (sub _ (among_iff.mp h))

theorem among_apart (apart : ∀ k ∈ some, k ∉ others) (h : f.among some = true) :
    f.among others = false :=
  Bool.eq_false_iff.mpr fun other => apart _ (among_iff.mp h) (among_iff.mp other)

theorem ne_of_among (other : g.among some = false) (h : f.among some = true) : f ≠ g := by
  rintro rfl
  cases other.symm.trans h

/-- Faults of arithmetic. -/
abbrev ofArithmetic : Fault → Bool := among [.division, .overflow]

/-- Faults of queries whose arguments are as they should be. -/
abbrev ofQuery : Fault → Bool := among [.robot, .color]

/-- Faults of types, calls or labels that do not fit. -/
abbrev isTyping : Fault → Bool := among [.value, .target, .label]

/-- Faults of computing with values, wherever these come from. -/
abbrev ofComputation : Fault → Bool := among [.value, .division, .overflow]

/-- Faults of expressions. -/
abbrev ofExpression : Fault → Bool :=
  among [.value, .division, .overflow, .unbound, .robot, .color]

/-- Faults of what commands look at before they do anything, apart from whether there is a robot. -/
abbrev ofCheck : Fault → Bool := among [.check, .color, .overflow]

/-- Faults of commands whose arguments are as they should be. -/
abbrev ofCommand : Fault → Bool := among [.check, .color, .overflow, .robot, .line]

end Fault

/-! ## Results -/

/-- The value is as it should be, or the fault is one that is allowed. -/
def Meets {α : Type} (allowed : Fault → Prop) (post : α → Prop) : Except Fault α → Prop
  | .ok a => post a
  | .error fault => allowed fault

namespace Meets

variable {α β : Type} {allowed : Fault → Prop} {post : α → Prop} {goal : β → Prop}

theorem bind {r : Except Fault α} {f : α → Except Fault β} (h : Meets allowed post r)
    (next : ∀ a, post a → Meets allowed goal (f a)) : Meets allowed goal (r >>= f) := by
  cases r with
  | ok a => exact next a h
  | error fault => exact h

theorem map {r : Except Fault α} {f : α → β} (h : Meets allowed post r)
    (next : ∀ a, post a → goal (f a)) : Meets allowed goal (r.map f) := by
  cases r with
  | ok a => exact next a h
  | error fault => exact h

theorem ite {c : Prop} [Decidable c] {r r' : Except Fault α} (yes : c → Meets allowed post r)
    (no : ¬ c → Meets allowed post r') : Meets allowed post (if c then r else r') := by
  split
  · next h => exact yes h
  · next h => exact no h

theorem allow {more : Fault → Prop} {r : Except Fault α} (h : Meets allowed post r)
    (weaker : ∀ {f}, allowed f → more f) : Meets more post r := by
  cases r with
  | ok a => exact h
  | error fault => exact weaker h

end Meets

/-- The faults of a result are allowed. -/
abbrev Raises {α : Type} (allowed : Fault → Prop) (r : Except Fault α) : Prop :=
  Meets allowed (fun _ => True) r

theorem Meets.raises {α : Type} {allowed : Fault → Prop} {post : α → Prop} {r : Except Fault α}
    (h : Meets allowed post r) : Raises allowed r := by
  cases r with
  | ok a => trivial
  | error fault => exact h

/-- Whatever a result is, it raises a fault or none. -/
theorem raises_any {α : Type} (r : Except Fault α) : Raises (fun _ => True) r := by
  cases r <;> trivial

/-! ## Operators

Operators raise faults of arithmetic, or of operands that are no numbers or no truth values. Which
of the two it is does not depend on what the numbers are, so one lemma for all operators on numbers
(`raises_numbers`) takes what each of them does with a pair.
-/

namespace Value

theorem raises_ofInt (op : Operator) (n : Int) : Raises (·.ofArithmetic) (ofInt op n) := by
  unfold ofInt
  split
  · trivial
  · rfl

theorem raises_divide (a b : Int64) : Raises (·.ofArithmetic) (divide a b) := by
  unfold divide
  split
  · rfl
  · exact raises_ofInt ..

theorem raises_modulo (a b : Int64) : Raises (·.ofArithmetic) (modulo a b) := by
  unfold modulo
  split
  · rfl
  split
  · exact raises_ofInt ..
  · rfl

theorem raises_power (a b : Int64) : Raises (·.ofArithmetic) (power a b) := by
  unfold power
  -- the bases one, minus one and zero, and then the exponents below zero and from 64 on
  split
  · trivial
  split
  · trivial
  split
  · split
    · rfl
    · trivial
  split
  · trivial
  split
  · rfl
  · exact raises_ofInt ..

theorem raises_applyUnary (op : UnaryOp) (v : Value) :
    Raises (·.ofComputation) (applyUnary op v) := by
  cases op with
  | neg =>
    cases v with
    | number n =>
      exact ((raises_ofInt ..).map fun _ _ => trivial).allow (Fault.among_mono (by decide))
    | boolean b => rfl
    | string s => rfl
  | not => cases v <;> trivial

theorem raises_numbers {op : BinaryOp} {l r : Value} {f : Int64 → Int64 → Except Fault Value}
    (h : ∀ a b, Raises (·.ofArithmetic) (f a b)) :
    Raises (·.ofComputation) (numbers op l r f) := by
  cases l with
  | number a =>
    cases r with
    | number b => exact (h a b).allow (Fault.among_mono (by decide))
    | boolean b => rfl
    | string s => rfl
  | boolean b => rfl
  | string s => rfl

theorem raises_booleans (op : BinaryOp) (l r : Value) (f : Bool → Bool → Bool) :
    Raises (·.ofComputation) (booleans op l r f) := by
  cases l <;> cases r <;> trivial

theorem raises_applyBinary (op : BinaryOp) (l r : Value) :
    Raises (·.ofComputation) (applyBinary op l r) := by
  cases op with
  | eq | ne => trivial
  | and | or => exact raises_booleans ..
  | lt | gt | le | ge => exact raises_numbers fun _ _ => trivial
  | add | sub | mul => exact raises_numbers fun _ _ => (raises_ofInt ..).map fun _ _ => trivial
  | div => exact raises_numbers fun _ _ => (raises_divide ..).map fun _ _ => trivial
  | mod => exact raises_numbers fun _ _ => (raises_modulo ..).map fun _ _ => trivial
  | pow => exact raises_numbers fun _ _ => (raises_power ..).map fun _ _ => trivial

end Value

theorem Arguments.raises_ofValues (b : Builtin) (params : List Param) (values : List Value) :
    Raises (·.ofComputation) (Arguments.ofValues b params values) := by
  induction params generalizing values with
  | nil => trivial
  | cons param params ih =>
    cases values with
    | nil => rfl
    | cons v values =>
      rw [ofValues]
      split
      · rfl
      · exact (ih values).map fun _ _ => trivial

/-! ## Expressions

An expression adds to this the faults of its variables and its queries. Both are parameters here:
whether a variable is bound and whether there is a robot depends on the state, and the users of
`raises_eval_within` know different things about it.
-/

namespace Machine

theorem raises_position (m : Machine) : Raises (·.ofQuery) m.position := by
  unfold position
  split
  · trivial
  · rfl

variable {resolver : Option ColorResolver} {m : Machine} {allowed : Fault → Prop}

theorem raises_colorOf (resolver : Option ColorResolver)
    (color : ∀ name, allowed (.invalidColor name)) (name : String) :
    Raises allowed (colorOf resolver name) := by
  unfold colorOf
  split
  · trivial
  · exact color name

-- keeps elaboration from looking the name up in the palette
attribute [local irreducible] colorOf

/-- A query gives an answer of its type, or faults over the robot or a colour. -/
theorem meets_answer_within (position : Raises allowed m.position)
    (color : ∀ name, allowed (.invalidColor name)) (q : Query) (args : Arguments q.params) :
    Meets allowed (fun v => v.type = q.answer) (m.answer resolver q args) := by
  cases q with
  | actualX => exact position.bind fun _ _ => rfl
  | actualY => exact position.bind fun _ _ => rfl
  | canvasSize => rfl
  | colorCount => exact (raises_colorOf resolver color _).bind fun _ _ => rfl
  | isBrushColor => exact (raises_colorOf resolver color _).bind fun _ _ => rfl
  | isBrushSize => rfl
  | isCanvasColor =>
    exact (raises_colorOf resolver color _).bind fun _ _ => position.bind fun _ _ => rfl

theorem meets_answer (resolver : Option ColorResolver) (m : Machine) (q : Query)
    (args : Arguments q.params) :
    Meets (·.ofQuery) (fun v => v.type = q.answer) (m.answer resolver q args) :=
  meets_answer_within m.raises_position (fun _ => rfl) q args

theorem raises_evalAll {args : List Expr}
    (each : ∀ arg ∈ args, Raises allowed (m.eval resolver arg)) :
    Raises allowed (m.evalAll resolver args) := by
  induction args with
  | nil => trivial
  | cons arg args ih =>
    rw [evalAll]
    have first := each arg List.mem_cons_self
    have later := ih fun e mem => each e (List.mem_cons_of_mem arg mem)
    exact first.bind fun v _ => later.bind fun values _ => trivial

/-- An expression raises faults of computing with values and those of queries, and those of its
variables that are not bound. -/
theorem raises_eval_within {e : Expr} (computation : ∀ {f}, f.ofComputation = true → allowed f)
    (position : Raises allowed m.position) (color : ∀ name, allowed (.invalidColor name))
    (unbound : ∀ name ∈ e.vars, m.scope.get? name = none → allowed (.undefinedVariable name)) :
    Raises allowed (m.eval resolver e) := by
  induction e using Expr.induction with
  | number => trivial
  | string => trivial
  | boolean => trivial
  | var name span =>
    rw [eval]
    split
    · trivial
    · next missing => exact unbound name (List.mem_singleton_self name) missing
  -- an operator faults over an operand, the left one first, or by itself
  | unary op operand span ih =>
    rw [eval]
    exact (ih unbound).bind fun _ _ => (Value.raises_applyUnary ..).allow computation
  | binary op left right span ihl ihr =>
    rw [eval]
    have left := ihl fun name mem => unbound name (List.mem_append_left _ mem)
    have right := ihr fun name mem => unbound name (List.mem_append_right _ mem)
    exact left.bind fun _ _ => right.bind fun _ _ =>
      (Value.raises_applyBinary ..).allow computation
  | call b args span ih =>
    cases b with
    | command c => exact computation rfl -- a command gives no value
    | query q =>
      have each (arg : Expr) (mem : arg ∈ args) : Raises allowed (m.eval resolver arg) :=
        ih arg mem fun name used =>
          unbound name (Expr.mem_allVars.mpr ⟨arg, mem, used⟩)
      rw [eval]
      refine .ite (fun _ => ?_) fun _ => computation rfl
      refine (raises_evalAll each).bind fun values _ => ?_
      -- the arguments are evaluated, then matched with the parameters, then the query answers
      have made := Arguments.raises_ofValues (.query q) q.params values
      refine (made.allow computation).bind fun arguments _ => ?_
      exact (meets_answer_within position color q arguments).raises

/-- The faults of expressions, typed or not. -/
theorem raises_eval (resolver : Option ColorResolver) (m : Machine) (e : Expr) :
    Raises (·.ofExpression) (m.eval resolver e) :=
  raises_eval_within (Fault.among_mono (by decide))
    (m.raises_position.allow (Fault.among_mono (by decide))) (fun _ => rfl) fun _ _ _ => rfl

theorem raises_evalArguments {b : Builtin} {args : List Expr}
    (computation : ∀ {f}, f.ofComputation = true → allowed f)
    (each : ∀ arg ∈ args, Raises allowed (m.eval resolver arg)) :
    Raises allowed (m.evalArguments resolver b args) := by
  unfold evalArguments
  split
  · exact (raises_evalAll each).bind fun values _ =>
      (Arguments.raises_ofValues b b.params values).allow computation
  · exact computation rfl

end Machine

/-! ## Jumps

A jump evaluates its condition, which must be a truth value, and looks its label up only if the
condition is true.
-/

/-- Jumps raise the faults of their condition, of a condition that is no truth value, and of a
label that is missing. -/
theorem State.jump_within {p : Program} {options : RunOptions} {m : Machine} {pc : Nat}
    {label : String} {condition : Expr} {allowed : Fault → Prop}
    (evaluated : Raises allowed (m.eval options.resolver condition))
    (computation : ∀ {f}, f.ofComputation = true → allowed f)
    (missing : allowed (.undefinedLabel label)) :
    Raises allowed (jump p options m pc label condition) := by
  refine evaluated.bind fun v _ => ?_
  match v with
  | .boolean false => trivial -- goes on, without a look at the label
  | .boolean true =>
    dsimp only
    split
    · trivial
    · exact missing
  | .number _ | .string _ => exact computation rfl -- no truth value

theorem State.raises_jump (p : Program) (options : RunOptions) (m : Machine) (pc : Nat)
    (label : String) (condition : Expr) :
    Raises (fun f => f.ofExpression = true ∨ f = .undefinedLabel label)
      (jump p options m pc label condition) :=
  jump_within ((m.raises_eval options.resolver condition).allow .inl)
    (fun h => .inl (Fault.among_mono (by decide) h)) (.inr rfl)

end BrushScript
