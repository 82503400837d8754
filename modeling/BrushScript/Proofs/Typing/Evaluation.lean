import BrushScript.Proofs.Machine.Fault
import BrushScript.Proofs.Typing.HasType

/-!
# Evaluation respects the types

An expression typed by the rules gives a value of its type, or a fault that has nothing to do with
types: `respects_eval`. `Respects` is `Meets` with every fault allowed but those of types; operators
on operands of the right types and arguments of the right types have a lemma each.

Variables are the one place where the state comes in. `Agrees` asks of the scope that whatever is
bound has the type that is known; a variable that is not bound is no matter of types, and its fault
is allowed. So nothing here depends on which assignments a run has come by.
-/

namespace BrushScript

open Syntax Typing

/-- A result as it should be, or a fault that is not one of types. -/
abbrev Respects {α : Type} (post : α → Prop) (r : Except Fault α) : Prop :=
  Meets (fun f => f.isTyping = false) post r

/-! ## Operators

For each group of operators with one rule, the operands have the types of the rule, so the case in
which the machine faults over an operand does not arise. What is left are the faults of arithmetic.
-/

/-- Arithmetic gives a value as it should be, whatever the operands. -/
theorem Meets.respects {r : Except Fault Int64} {post : Value → Prop}
    (h : Raises (·.ofArithmetic) r) (next : ∀ n, post (.number n)) :
    Respects post (r.map Value.number) :=
  (h.map fun n _ => next n).allow (Fault.among_apart (by decide))

namespace Value

theorem respects_negate {v : Value} (h : v.type = .number) :
    Respects (fun w => w.type = .number) (applyUnary .neg v) := by
  cases v with
  | number n => exact (raises_ofInt ..).respects fun _ => rfl
  | boolean b => cases h
  | string s => cases h

theorem respects_not {v : Value} (h : v.type = .boolean) :
    Respects (fun w => w.type = .boolean) (applyUnary .not v) := by
  cases v with
  | boolean b => rfl
  | number n => cases h
  | string s => cases h

theorem respects_numbers {op : BinaryOp} {l r : Value} {f : Int64 → Int64 → Except Fault Value}
    {post : Value → Prop} (hl : l.type = .number) (hr : r.type = .number)
    (h : ∀ a b, Respects post (f a b)) : Respects post (numbers op l r f) := by
  cases l <;> cases hl
  cases r <;> cases hr
  exact h _ _

theorem respects_booleans {op : BinaryOp} {l r : Value} {f : Bool → Bool → Bool}
    (hl : l.type = .boolean) (hr : r.type = .boolean) :
    Respects (fun w => w.type = .boolean) (booleans op l r f) := by
  cases l <;> cases hl
  cases r <;> cases hr
  rfl

theorem respects_arithmetic {op : BinaryOp} {l r : Value}
    (kind : op ∈ [.add, .sub, .mul, .div, .mod, .pow]) (hl : l.type = .number)
    (hr : r.type = .number) : Respects (fun w => w.type = .number) (applyBinary op l r) := by
  simp only [List.mem_cons, List.not_mem_nil, or_false] at kind
  rcases kind with rfl | rfl | rfl | rfl | rfl | rfl
  · exact respects_numbers hl hr fun _ _ => (raises_ofInt ..).respects fun _ => rfl
  · exact respects_numbers hl hr fun _ _ => (raises_ofInt ..).respects fun _ => rfl
  · exact respects_numbers hl hr fun _ _ => (raises_ofInt ..).respects fun _ => rfl
  · exact respects_numbers hl hr fun _ _ => (raises_divide ..).respects fun _ => rfl
  · exact respects_numbers hl hr fun _ _ => (raises_modulo ..).respects fun _ => rfl
  · exact respects_numbers hl hr fun _ _ => (raises_power ..).respects fun _ => rfl

theorem respects_order {op : BinaryOp} {l r : Value} (kind : op ∈ [.lt, .gt, .le, .ge])
    (hl : l.type = .number) (hr : r.type = .number) :
    Respects (fun w => w.type = .boolean) (applyBinary op l r) := by
  simp only [List.mem_cons, List.not_mem_nil, or_false] at kind
  rcases kind with rfl | rfl | rfl | rfl <;> exact respects_numbers hl hr fun _ _ => rfl

theorem respects_logic {op : BinaryOp} {l r : Value} (kind : op ∈ [.and, .or])
    (hl : l.type = .boolean) (hr : r.type = .boolean) :
    Respects (fun w => w.type = .boolean) (applyBinary op l r) := by
  simp only [List.mem_cons, List.not_mem_nil, or_false] at kind
  rcases kind with rfl | rfl <;> exact respects_booleans hl hr

/-- Values of any types may be compared for equality. -/
theorem respects_equality {op : BinaryOp} (l r : Value) (kind : op ∈ [.eq, .ne]) :
    Respects (fun w => w.type = .boolean) (applyBinary op l r) := by
  simp only [List.mem_cons, List.not_mem_nil, or_false] at kind
  rcases kind with rfl | rfl <;> rfl

theorem exists_as? {v : Value} {type : TypeName} (typed : v.type = type) :
    ∃ a, v.as? type = some a := by
  subst typed
  cases v <;> exact ⟨_, rfl⟩

end Value

/-- Values of the types of the parameters make arguments. -/
theorem Arguments.exists_ofValues (b : Builtin) {params : List Param} {values : List Value}
    (types : values.map Value.type = params.map Param.type) :
    ∃ args, Arguments.ofValues b params values = .ok args := by
  induction params generalizing values with
  | nil => exact ⟨(), rfl⟩
  | cons param params ih =>
    cases values with
    | nil => cases types
    | cons v values =>
      obtain ⟨here, later⟩ := List.cons.inj types
      obtain ⟨args, made⟩ := ih later
      obtain ⟨a, carried⟩ := Value.exists_as? here
      exact ⟨(a, args), by rw [ofValues, carried, made]; rfl⟩

/-! ## Expressions

The induction is on the typing rules. Each part is evaluated in the order of the machine, and
`Meets.bind` hands the type of its value on.
-/

/-- Every variable that is bound holds a value of its type. -/
def Agrees (types : Scope TypeName) (scope : Scope Value) : Prop :=
  ∀ name v, scope.get? name = some v → types.get? name = some v.type

namespace Machine

variable {resolver : Option ColorResolver} {m : Machine} {types : Scope TypeName}

/-- Expressions that are typed one by one give values of the types of the parameters. -/
theorem respects_evalAll {params : List Param} {args : List Expr}
    (count : args.length = params.length)
    (each : ∀ pair ∈ params.zip args,
      Respects (fun v => v.type = pair.1.type) (m.eval resolver pair.2)) :
    Respects (fun values => values.map Value.type = params.map Param.type)
      (m.evalAll resolver args) := by
  induction params generalizing args with
  | nil =>
    cases List.length_eq_zero_iff.mp count
    rfl
  | cons param params ih =>
    cases args with
    | nil => cases count
    | cons arg args =>
      have first : Respects (fun v => v.type = param.type) (m.eval resolver arg) :=
        each (param, arg) (by simp)
      have later := ih (by simpa using count) fun pair mem => each pair (List.mem_cons_of_mem _ mem)
      rw [evalAll]
      refine first.bind fun v typed => later.bind fun values typedValues => ?_
      show (v :: values).map Value.type = (param :: params).map Param.type
      rw [List.map_cons, List.map_cons, typed, typedValues]

theorem respects_evalArguments {b : Builtin} {args : List Expr} (count : args.length = b.arity)
    (each : ∀ pair ∈ b.params.zip args,
      Respects (fun v => v.type = pair.1.type) (m.eval resolver pair.2)) :
    Respects (fun _ => True) (m.evalArguments resolver b args) := by
  rw [evalArguments, if_pos count]
  refine (respects_evalAll count each).bind fun values typed => ?_
  obtain ⟨made, eq⟩ := Arguments.exists_ofValues b typed
  rw [eq]
  trivial

/-- An expression typed by the rules gives a value of its type. -/
theorem respects_eval (resolver : Option ColorResolver) {e : Expr} {type : TypeName}
    (typed : HasType types e type) (agrees : Agrees types m.scope) :
    Respects (fun v => v.type = type) (m.eval resolver e) := by
  induction typed with
  | number => rfl
  | string => rfl
  | boolean => rfl
  | @var name span type known => -- bound to a value of its type, or not bound at all
    rw [eval]
    split
    · next v bound =>
      have := agrees _ _ bound
      rw [known] at this
      exact (Option.some.inj this).symm
    · rfl
  | neg _ ih =>
    rw [eval]
    exact ih.bind fun v typed => Value.respects_negate typed
  | not _ ih =>
    rw [eval]
    exact ih.bind fun v typed => Value.respects_not typed
  | arithmetic kind _ _ ihl ihr =>
    rw [eval]
    exact ihl.bind fun _ hl => ihr.bind fun _ hr => Value.respects_arithmetic kind hl hr
  | order kind _ _ ihl ihr =>
    rw [eval]
    exact ihl.bind fun _ hl => ihr.bind fun _ hr => Value.respects_order kind hl hr
  | equality kind _ _ ihl ihr =>
    rw [eval]
    exact ihl.bind fun _ _ => ihr.bind fun _ _ => Value.respects_equality _ _ kind
  | logic kind _ _ ihl ihr =>
    rw [eval]
    exact ihl.bind fun _ hl => ihr.bind fun _ hr => Value.respects_logic kind hl hr
  | @query q args span count _ ih =>
    rw [eval, if_pos count]
    -- the values of the arguments make the arguments of the query
    refine (respects_evalAll count ih).bind fun values typed => ?_
    obtain ⟨made, eq⟩ := Arguments.exists_ofValues (.query q) typed
    show Respects _ (Arguments.ofValues (.query q) q.params values >>= m.answer resolver q)
    rw [show Arguments.ofValues (.query q) q.params values = .ok made from eq]
    exact (meets_answer resolver m q made).allow (Fault.among_apart (by decide))

end Machine
end BrushScript
