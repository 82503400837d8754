import BrushScript.Proofs.Syntax.Expr
import BrushScript.Typing

/-!
# The typing rules

`HasType types e type` are the typing rules for expressions, apart from the order in which the
checker looks for problems. `hasType_of_check` says that an expression without command calls that
the checker accepts is typed by the rules, under the types known at that point; the rules stay valid
when more variables become known (`HasType.mono`), which is what a jump needs: it may come to a
statement with variables that the text assigns only later.

The checker goes on after a problem and collects all of them, so it works with judgements, which
carry problems beside a result. For a program without problems none of this matters: a judgement
that accepts is its result, and a sequence of judgements accepts exactly if each of them does
(`andThen_eq_accept_iff`). With that, what the checker does at a construct comes apart into the
premises of its rule.

There is no rule for commands. A command as an operand has the type of no value, and no machine
evaluates it.
-/

namespace BrushScript.Typing

open Syntax

/-! ## Accepting judgements

A judgement without problems is `accept` of its result, so what the checker found on a construct
without problems comes apart into what it found on the parts. -/

namespace Judgement

variable {α β : Type}

theorem problems_eq_nil_iff {j : Judgement α} : j.problems = [] ↔ ∃ a, j = accept a := by
  obtain ⟨reported, outcome⟩ := j
  cases outcome <;> simp [problems, accept]

theorem andThen_eq_accept_iff {j : Judgement α} {f : α → Judgement β} {b : β} :
    j.andThen f = accept b ↔ ∃ a, j = accept a ∧ f a = accept b := by
  obtain ⟨reported, outcome⟩ := j
  cases outcome with
  | error e => simp [andThen, accept]
  | ok a =>
    simp only [andThen, accept, mk.injEq, List.append_eq_nil_iff]
    constructor
    · rintro ⟨⟨rfl, reported⟩, outcome⟩
      exact ⟨a, ⟨rfl, rfl⟩, by rw [← reported, ← outcome]⟩
    · rintro ⟨a', ⟨rfl, same⟩, accepted⟩
      cases same
      simp [accepted]

@[simp] theorem accept_inj {a b : α} : accept a = accept b ↔ a = b := by
  simp [accept]

@[simp] theorem reject_ne_accept {problem : SemanticProblem} {span : Span} {a : α} :
    reject problem span ≠ accept a := by
  simp [reject, accept]

theorem ite_eq_accept_iff {c : Prop} [Decidable c] {problem : SemanticProblem} {span : Span}
    {a b : α} : (if c then accept a else reject problem span) = accept b ↔ c ∧ a = b := by
  split <;> simp_all

end Judgement

open Judgement

theorem conclude_eq_accept_iff {args : Arguments} {answer type : TypeName} :
    args.conclude answer = accept type ↔
      args.reported = [] ∧ args.failures = [] ∧ answer = type := by
  unfold Arguments.conclude
  split
  · next empty => simp_all [accept]
  · next last nonempty =>
    have : args.failures ≠ [] := by
      intro empty
      simp [empty] at nonempty
    simp [accept, this]

/-- Arguments without problems have the types of their parameters. -/
theorem checkArguments_accepts {ctx : Context} {b : Builtin} {position : Nat}
    {params : List Param} {args : List Expr}
    (reported : (checkArguments ctx b position params args).reported = [])
    (failures : (checkArguments ctx b position params args).failures = []) :
    ∀ pair ∈ params.zip args, check ctx pair.2 = accept pair.1.type := by
  induction params generalizing args position with
  | nil => simp
  | cons param params ih =>
    cases args with
    | nil => simp
    | cons arg args =>
      simp only [checkArguments, List.append_eq_nil_iff] at reported failures
      intro pair mem
      rcases List.mem_cons.mp mem with rfl | mem
      · have here := failures.1
        rcases judged : check ctx arg with ⟨_, e | found⟩
        · simp [judged, argumentFailures] at here
        · have empty := reported.1
          simp only [judged, argumentFailures] at here empty
          -- an argument of another type would have been a failure
          by_cases same : found = param.type
          · simp [accept, empty, same]
          · simp [same] at here
      · exact ih reported.2 failures.2 pair mem

/-- A call without problems has an argument for each parameter, of its type. -/
theorem arguments_of_check {ctx : Context} {b : Builtin} {args : List Expr} {span : Span}
    {type : TypeName} (accepted : check ctx (.call b args span) = accept type) :
    args.length = b.arity ∧ type = b.answer ∧
      ∀ pair ∈ b.params.zip args, check ctx pair.2 = accept pair.1.type := by
  simp only [check] at accepted
  split at accepted
  · next count =>
    obtain ⟨reported, failures, answer⟩ := conclude_eq_accept_iff.mp accepted
    exact ⟨count, answer.symm, checkArguments_accepts reported failures⟩
  · exact absurd accepted reject_ne_accept

/-- Every argument of a call stands beside a parameter. -/
theorem exists_param {params : List Param} {args : List Expr}
    (count : args.length = params.length) {arg : Expr} (mem : arg ∈ args) :
    ∃ param, (param, arg) ∈ params.zip args := by
  obtain ⟨i, lt, rfl⟩ := List.getElem_of_mem mem
  have within : i < params.length := count ▸ lt
  have pair : (params[i], args[i]) ∈ params.zip args :=
    List.mem_iff_getElem.mpr ⟨i, by rw [List.length_zip]; omega, List.getElem_zip⟩
  exact ⟨_, pair⟩

/-! ## The rules

One rule for each kind of expression. Operators with the same operand types share a rule, and the
two for equality ask only that both operands have the same type.
-/

/-- The typing rules of expressions, given the types of the variables. -/
inductive HasType (types : Scope TypeName) : Expr → TypeName → Prop where
  | number {n : Int64} {span : Span} : HasType types (.number n span) .number
  | string {s : String} {span : Span} : HasType types (.string s span) .string
  | boolean {b : Bool} {span : Span} : HasType types (.boolean b span) .boolean
  | var {name : String} {span : Span} {type : TypeName} (known : types.get? name = some type) :
      HasType types (.var name span) type
  | neg {e : Expr} {span : Span} :
      HasType types e .number → HasType types (.unary .neg e span) .number
  | not {e : Expr} {span : Span} :
      HasType types e .boolean → HasType types (.unary .not e span) .boolean
  | arithmetic {op : BinaryOp} {l r : Expr} {span : Span}
      (kind : op ∈ [.add, .sub, .mul, .div, .mod, .pow]) :
      HasType types l .number → HasType types r .number →
        HasType types (.binary op l r span) .number
  | order {op : BinaryOp} {l r : Expr} {span : Span} (kind : op ∈ [.lt, .gt, .le, .ge]) :
      HasType types l .number → HasType types r .number →
        HasType types (.binary op l r span) .boolean
  | equality {op : BinaryOp} {l r : Expr} {span : Span} {type : TypeName} (kind : op ∈ [.eq, .ne]) :
      HasType types l type → HasType types r type → HasType types (.binary op l r span) .boolean
  | logic {op : BinaryOp} {l r : Expr} {span : Span} (kind : op ∈ [.and, .or]) :
      HasType types l .boolean → HasType types r .boolean →
        HasType types (.binary op l r span) .boolean
  | query {q : Query} {args : List Expr} {span : Span} (count : args.length = q.params.length)
      (each : ∀ pair ∈ q.params.zip args, HasType types pair.2 pair.1.type) :
      HasType types (.call (.query q) args span) q.answer

/-- More variables may become known. -/
theorem HasType.mono {types types' : Scope TypeName} {e : Expr} {type : TypeName}
    (typed : HasType types e type)
    (more : ∀ name type, types.get? name = some type → types'.get? name = some type) :
    HasType types' e type := by
  induction typed with
  | number => exact .number
  | string => exact .string
  | boolean => exact .boolean
  | var known => exact .var (more _ _ known)
  | neg _ ih => exact .neg ih
  | not _ ih => exact .not ih
  | arithmetic kind _ _ ihl ihr => exact .arithmetic kind ihl ihr
  | order kind _ _ ihl ihr => exact .order kind ihl ihr
  | equality kind _ _ ihl ihr => exact .equality kind ihl ihr
  | logic kind _ _ ihl ihr => exact .logic kind ihl ihr
  | query count _ ih => exact .query count ih

/-! ## The checker follows the rules

By induction on the expression: the checker accepts its parts, they are typed by the rules, and the
operator or the call puts them together.
-/

theorem hasType_unary {types : Scope TypeName} {op : UnaryOp} {e : Expr} {span : Span}
    {operand type : TypeName} (accepted : unaryType op operand span = accept type)
    (typed : HasType types e operand) : HasType types (.unary op e span) type := by
  unfold unaryType at accepted
  split at accepted
  · cases accept_inj.mp accepted
    exact .neg typed
  · cases accept_inj.mp accepted
    exact .not typed
  · exact absurd accepted reject_ne_accept

theorem hasType_binary {types : Scope TypeName} {op : BinaryOp} {l r : Expr} {span : Span}
    {left right type : TypeName} (accepted : binaryType op left right span = accept type)
    (typedLeft : HasType types l left) (typedRight : HasType types r right) :
    HasType types (.binary op l r span) type := by
  cases op <;> simp only [binaryType, ite_eq_accept_iff] at accepted
  case add | sub | mul | div | mod | pow =>
    obtain ⟨⟨rfl, rfl⟩, rfl⟩ := accepted
    exact .arithmetic (by decide) typedLeft typedRight
  case lt | gt | le | ge =>
    obtain ⟨⟨rfl, rfl⟩, rfl⟩ := accepted
    exact .order (by decide) typedLeft typedRight
  case eq | ne =>
    obtain ⟨rfl, rfl⟩ := accepted
    exact .equality (by decide) typedLeft typedRight
  case and | or =>
    obtain ⟨⟨rfl, rfl⟩, rfl⟩ := accepted
    exact .logic (by decide) typedLeft typedRight

/-- An expression that the checker accepts is typed by the rules. -/
theorem hasType_of_check {ctx : Context} {e : Expr} {type : TypeName}
    (free : e.commandFree = true) (accepted : check ctx e = accept type) :
    HasType ctx.types e type := by
  induction e using Expr.induction generalizing type with
  | number n span =>
    cases accept_inj.mp accepted
    exact .number
  | string s span =>
    cases accept_inj.mp accepted
    exact .string
  | boolean b span =>
    cases accept_inj.mp accepted
    exact .boolean
  | var name span =>
    simp only [check] at accepted
    split at accepted
    · next known =>
      cases accept_inj.mp accepted
      exact .var known
    · exact absurd accepted reject_ne_accept
  | unary op operand span ih =>
    simp only [check, andThen_eq_accept_iff] at accepted
    obtain ⟨_, judged, accepted⟩ := accepted
    exact hasType_unary accepted (ih free judged)
  | binary op left right span ihl ihr =>
    simp only [Expr.commandFree, Bool.and_eq_true] at free
    simp only [check, andThen_eq_accept_iff] at accepted
    obtain ⟨_, judgedLeft, _, judgedRight, accepted⟩ := accepted
    exact hasType_binary accepted (ihl free.1 judgedLeft) (ihr free.2 judgedRight)
  | call b args span ih =>
    cases b with
    | command c => simp [Expr.commandFree] at free
    | query q =>
      simp only [Expr.commandFree, Expr.allCommandFree_iff] at free
      -- as many arguments as parameters, the query's own type, and each argument accepted
      obtain ⟨count, rfl, each⟩ := arguments_of_check accepted
      refine .query count fun pair mem => ?_
      have arg : pair.2 ∈ args := (List.of_mem_zip mem).2
      exact ih _ arg (free _ arg) (each pair mem)

end BrushScript.Typing
