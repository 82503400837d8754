import BrushScript.Proofs.Syntax.Expr
import BrushScript.Proofs.Syntax.Parsed

/-!
# Where the parser puts an expression

The place of an expression is put together from the places of tokens. `Expr.MadeOf w e` says from
which ones: those of `w`, in their order, and each part of the expression from tokens of its own.
`madeOf_of_parseTier` says that an expression which a parser gives is made of the tokens that the
parser used up, and `rowOf_of_parseAction` says so of the expressions of a statement.

A parser may use up tokens that leave no trace in the place. Parentheses around an expression are
dropped, with their places, and so are the commas between arguments and all of a jump that stands in
front of its condition. So an expression is made of a sublist of the tokens and not of all of them.
For the order of places that is as good (`Expr.MadeOf.mono`).

The lemmas about the parsers of expressions are one mutual recursion, with the measure that the
parsers themselves go down by. The loop over the operators of a tier is the only one with an
assumption: its left operand was made of tokens that were used up before it started.
-/

namespace BrushScript.Syntax

open Syntax.Parser (Tokens)

/-- The place of an expression comes from some of the tokens: from one, or from the first and the
last of those that it and its parts are made of. The items of a call are its arguments, each with
its tokens. -/
inductive Expr.MadeOf : Tokens → Expr → Prop where
  | leaf {w : Tokens} {e : Expr} {t : Located Token} (leaf : e.parts = []) (place : e.span = t.span)
      (among : t ∈ w) : MadeOf w e
  | unary {w u : Tokens} {t : Located Token} {op : UnaryOp} {operand : Expr}
      (inner : MadeOf u operand) (among : (t :: u).Sublist w) :
      MadeOf w (.unary op operand (t.span.merge operand.span))
  | binary {w u v : Tokens} {op : BinaryOp} {left right : Expr} (first : MadeOf u left)
      (second : MadeOf v right) (among : (u ++ v).Sublist w) : MadeOf w (Parser.join op left right)
  | call {w : Tokens} {name close : Located Token} {b : Builtin} {items : List (Tokens × Expr)}
      (each : ∀ item ∈ items, MadeOf item.1 item.2)
      (among : (name :: (items.flatMap Prod.fst ++ [close])).Sublist w) :
      MadeOf w (.call b (items.map Prod.snd) (name.span.merge close.span))

theorem Expr.MadeOf.mono {u w : Tokens} {e : Expr} (h : MadeOf u e) (sub : u.Sublist w) :
    MadeOf w e := by
  cases h with
  | leaf leaf place among => exact .leaf leaf place (sub.mem among)
  | unary inner among => exact .unary inner (among.trans sub)
  | binary first second among => exact .binary first second (among.trans sub)
  | call each among => exact .call each (among.trans sub)

/-- A part of an expression is made of tokens of the whole. -/
theorem Expr.MadeOf.part {w : Tokens} {e part : Expr} (h : MadeOf w e) (mem : part ∈ e.parts) :
    MadeOf w part := by
  -- which tokens a part is made of depends on how the whole is made
  cases h with
  | leaf leaf =>
    rw [leaf] at mem
    cases mem
  | @unary w u t op operand inner among =>
    cases List.mem_singleton.mp mem
    exact inner.mono ((List.sublist_cons_self t u).trans among)
  | @binary w u v op left right first second among =>
    rcases mem_parts_binary.mp mem with rfl | rfl
    · exact first.mono ((List.sublist_append_left u v).trans among)
    · exact second.mono ((List.sublist_append_right u v).trans among)
  | @call w name close b items each among =>
    obtain ⟨item, mem', rfl⟩ := List.mem_map.mp mem
    have inside : item.1.Sublist (items.flatMap Prod.fst) :=
      List.sublist_flatten_of_mem (List.mem_map_of_mem mem')
    refine (each item mem').mono (inside.trans (.trans ?_ among))
    exact (List.sublist_append_left _ [close]).cons name

/-- Expressions that follow one another, each made of its own tokens. -/
def RowOf (w : Tokens) (es : List Expr) : Prop :=
  ∃ items : List (Tokens × Expr), items.map Prod.snd = es ∧
    (∀ item ∈ items, Expr.MadeOf item.1 item.2) ∧ (items.flatMap Prod.fst).Sublist w

namespace RowOf

variable {u v w : Tokens} {e : Expr} {es : List Expr}

theorem nil (w : Tokens) : RowOf w [] := ⟨[], rfl, nofun, List.nil_sublist w⟩

theorem cons (first : e.MadeOf u) (rest : RowOf v es) (among : (u ++ v).Sublist w) :
    RowOf w (e :: es) := by
  obtain ⟨items, rfl, each, inside⟩ := rest
  refine ⟨(u, e) :: items, rfl, List.forall_mem_cons.mpr ⟨first, each⟩, ?_⟩
  exact ((List.Sublist.refl u).append inside).trans among

theorem single (h : e.MadeOf w) : RowOf w [e] := by
  refine cons h (nil []) ?_
  simp only [List.append_nil, List.Sublist.refl]

theorem mono (h : RowOf u es) (sub : u.Sublist w) : RowOf w es := by
  obtain ⟨items, same, each, inside⟩ := h
  exact ⟨items, same, each, inside.trans sub⟩

end RowOf

namespace Parser

open Parsed

/-! ## Expressions

Each lemma says of one parser which tokens it has used up, and that what it gives is made of them.
-/

mutual

theorem madeOf_of_parseTier {stop : Span} {tier : Nat} {ts rest : Tokens} {e : Expr}
    (h : (parseTier stop tier ts).Yields e rest) : ∃ w, ts = w ++ rest ∧ e.MadeOf w := by
  match tier with
  | 0 =>
    rw [parseTier] at h
    exact madeOf_of_parsePower h
  | tier + 1 =>
    rw [parseTier, yields_andThen_iff] at h
    obtain ⟨left, mid, suffix, first, tail⟩ := h
    obtain ⟨u, same, made⟩ := madeOf_of_parseTier first
    obtain ⟨w, rfl, made⟩ := madeOf_of_parseTail made tail
    exact ⟨u ++ w, by rw [same, List.append_assoc], made⟩
termination_by (ts.length, tier + 3)
decreasing_by
  · exact descends List.suffix_rfl (by omega)
  · exact descends List.suffix_rfl (by omega)
  · exact descends suffix (by omega)

/-- The loop over the operators of a tier starts with a left operand that was read before it. -/
theorem madeOf_of_parseTail {stop : Span} {tier : Nat} {u : Tokens} {left : Expr}
    (operand : left.MadeOf u) {ts rest : Tokens} {e : Expr}
    (h : (parseTail stop tier left ts).Yields e rest) :
    ∃ w, ts = w ++ rest ∧ e.MadeOf (u ++ w) := by
  -- where the loop ends, the left operand is the whole expression
  have stays : left.MadeOf (u ++ []) := by rwa [List.append_nil]
  match ts with
  | [] =>
    rw [parseTail, yields_accept_iff] at h
    obtain ⟨rfl, rfl⟩ := h
    exact ⟨[], rfl, stays⟩
  | t :: ts =>
    rw [parseTail] at h
    split at h
    · -- no operator of the tier, so the left operand stands
      rw [yields_accept_iff] at h
      obtain ⟨rfl, rfl⟩ := h
      exact ⟨[], rfl, stays⟩
    · next op operator =>
      rw [yields_after_iff, yields_andThen_iff] at h
      obtain ⟨right, mid, suffix, second, tail⟩ := h
      obtain ⟨v, same, made⟩ := madeOf_of_parseTier second
      have joined : (join op left right).MadeOf (u ++ t :: v) :=
        .binary operand made ((List.Sublist.refl u).append (List.sublist_cons_self t v))
      split at tail
      · -- the loop goes on with the two operands joined
        obtain ⟨w, rfl, made⟩ := madeOf_of_parseTail joined tail
        refine ⟨t :: (v ++ w), by rw [same, ← List.append_assoc]; rfl, ?_⟩
        rw [List.append_assoc] at made
        exact made
      · -- the tier allows one operator only
        rw [yields_accept_iff] at tail
        obtain ⟨rfl, rfl⟩ := tail
        exact ⟨t :: v, by rw [same]; rfl, joined⟩
termination_by (ts.length, 0)
decreasing_by
  · exact Prod.Lex.left _ _ (by simp)
  · exact Prod.Lex.left _ _ (Nat.lt_succ_of_le suffix.length_le)

theorem madeOf_of_parsePower {stop : Span} {ts rest : Tokens} {e : Expr}
    (h : (parsePower stop ts).Yields e rest) : ∃ w, ts = w ++ rest ∧ e.MadeOf w := by
  rw [parsePower, yields_andThen_iff] at h
  obtain ⟨base, mid, suffix, first, more⟩ := h
  obtain ⟨u, same, made⟩ := madeOf_of_parseUnary first
  match mid, suffix with
  | [], _ =>
    rw [yields_accept_iff] at more
    obtain ⟨rfl, rfl⟩ := more
    exact ⟨u, same, made⟩
  | t :: mid, suffix =>
    dsimp only at more
    split at more
    · -- a power
      rw [yields_after_iff, yields_map_iff] at more
      obtain ⟨exponent, second, rfl⟩ := more
      obtain ⟨v, rfl, made'⟩ := madeOf_of_parsePower second
      refine ⟨u ++ t :: v, by rw [same, List.append_assoc]; rfl, ?_⟩
      exact .binary made made' ((List.Sublist.refl u).append (List.sublist_cons_self t v))
    · -- another token, which stays for the next parser
      rw [yields_accept_iff] at more
      obtain ⟨rfl, rfl⟩ := more
      exact ⟨u, same, made⟩
termination_by (ts.length, 2)
decreasing_by
  · exact descends List.suffix_rfl (by decide)
  · exact Prod.Lex.left _ _ suffix.length_le

theorem madeOf_of_parseUnary {stop : Span} {ts rest : Tokens} {e : Expr}
    (h : (parseUnary stop ts).Yields e rest) : ∃ w, ts = w ++ rest ∧ e.MadeOf w := by
  match ts with
  | [] =>
    rw [parseUnary] at h
    exact madeOf_of_parsePrimary h
  | t :: ts =>
    rw [parseUnary] at h
    split at h
    · -- no sign
      exact madeOf_of_parsePrimary h
    · -- a sign and its operand
      rw [yields_after_iff, yields_map_iff] at h
      obtain ⟨operand, inner, rfl⟩ := h
      obtain ⟨w, rfl, made⟩ := madeOf_of_parseUnary inner
      exact ⟨t :: w, rfl, .unary made (List.Sublist.refl _)⟩
termination_by (ts.length, 1)
decreasing_by
  · exact descends List.suffix_rfl (by decide)
  · exact descends List.suffix_rfl (by decide)
  · exact Prod.Lex.left _ _ (by simp)

theorem madeOf_of_parsePrimary {stop : Span} {ts rest : Tokens} {e : Expr}
    (h : (parsePrimary stop ts).Yields e rest) : ∃ w, ts = w ++ rest ∧ e.MadeOf w := by
  match ts with
  | [] =>
    rw [parsePrimary] at h
    exact absurd h not_yields_reject
  | t :: ts =>
    rw [parsePrimary] at h
    split at h
    · -- a number, unless it is out of range
      split at h
      · rw [yields_after_iff, yields_accept_iff] at h
        obtain ⟨rfl, rfl⟩ := h
        exact ⟨[t], rfl, .leaf rfl rfl List.mem_cons_self⟩
      · exact absurd h not_yields_error
    · -- a text
      rw [yields_after_iff, yields_accept_iff] at h
      obtain ⟨rfl, rfl⟩ := h
      exact ⟨[t], rfl, .leaf rfl rfl List.mem_cons_self⟩
    · -- a name
      rw [yields_after_iff, yields_accept_iff] at h
      obtain ⟨rfl, rfl⟩ := h
      exact ⟨[t], rfl, .leaf rfl rfl List.mem_cons_self⟩
    · -- a command, which gives no value
      exact absurd h not_yields_reject
    · -- a call goes from its name to its closing parenthesis, which belongs to no argument
      rw [yields_after_iff, yields_map_iff] at h
      obtain ⟨⟨args, close⟩, arguments, rfl⟩ := h
      obtain ⟨w, last, rfl, rfl, row⟩ := rowOf_of_parseArguments arguments
      obtain ⟨items, rfl, each, inside⟩ := row
      refine ⟨t :: (w ++ [last]), by simp, .call each ?_⟩
      exact (inside.append (List.Sublist.refl _)).cons_cons t
    · -- parentheses add nothing to the place of the expression between them
      rw [yields_after_iff, yields_andThen_iff] at h
      obtain ⟨inner, mid, suffix, first, close⟩ := h
      obtain ⟨w, rfl, made⟩ := madeOf_of_parseTier first
      rw [yields_map_iff] at close
      obtain ⟨span, close, rfl⟩ := close
      rw [yields_expect_iff] at close
      subst close
      refine ⟨t :: (w ++ [⟨.sign .rightParen, span⟩]), by simp, made.mono ?_⟩
      exact (List.sublist_append_left w _).cons t
    · -- any other token
      exact absurd h not_yields_reject
termination_by (ts.length, 0)
decreasing_by
  · exact Prod.Lex.left _ _ (by simp)
  · exact Prod.Lex.left _ _ (by simp)

/-- The arguments are made of the tokens before the closing parenthesis. -/
theorem rowOf_of_parseArguments {stop : Span} {b : Builtin} {ts rest : Tokens}
    {args : List Expr} {close : Span} (h : (parseArguments stop b ts).Yields (args, close) rest) :
    ∃ (w : Tokens) (last : Located Token),
      ts = w ++ last :: rest ∧ last.span = close ∧ RowOf w args := by
  rw [parseArguments, yields_andThen_iff] at h
  obtain ⟨opening, mid, suffix, first, h⟩ := h
  rw [yields_expect_iff] at first
  rw [yields_andThen_iff] at h
  obtain ⟨items, mid', suffix', list, h⟩ := h
  rw [yields_andThen_iff] at h
  obtain ⟨span, mid'', suffix'', last, h⟩ := h
  rw [yields_expect_iff] at last
  obtain ⟨w, same, row⟩ := rowOf_of_parseList list
  subst last
  split at h
  · rw [yields_accept_iff] at h
    obtain ⟨both, rfl⟩ := h
    cases both
    refine ⟨⟨.sign .leftParen, opening⟩ :: w, ⟨.sign .rightParen, close⟩, ?_, rfl, ?_⟩
    · rw [first, same]
      rfl
    · exact row.mono (List.sublist_cons_self _ w)
  · exact absurd h not_yields_error
termination_by (ts.length, loosest + 6)
decreasing_by exact descends suffix (by decide)

theorem rowOf_of_parseList {stop : Span} {b : Builtin} {ts rest : Tokens} {args : List Expr}
    (h : (parseList stop b ts).Yields args rest) : ∃ w, ts = w ++ rest ∧ RowOf w args := by
  rw [parseList] at h
  split at h
  · -- an empty list
    rw [yields_accept_iff] at h
    obtain ⟨rfl, rfl⟩ := h
    exact ⟨[], rfl, .nil []⟩
  · split at h
    · -- the tokens end where a list should be
      exact absurd h not_yields_reject
    · exact rowOf_of_parseItems h
termination_by (ts.length, loosest + 5)
decreasing_by exact descends List.suffix_rfl (by decide)

theorem rowOf_of_parseItems {stop : Span} {ts rest : Tokens} {args : List Expr}
    (h : (parseItems stop ts).Yields args rest) : ∃ w, ts = w ++ rest ∧ RowOf w args := by
  rw [parseItems, yields_andThen_iff] at h
  obtain ⟨item, mid, suffix, first, more⟩ := h
  obtain ⟨u, same, made⟩ := madeOf_of_parseTier first
  match mid, suffix with
  | [], _ =>
    rw [yields_accept_iff] at more
    obtain ⟨rfl, rfl⟩ := more
    exact ⟨u, same, .single made⟩
  | t :: mid, suffix =>
    dsimp only at more
    split at more
    · -- a comma, and more arguments behind it
      rw [yields_after_iff, yields_map_iff] at more
      obtain ⟨items, others, rfl⟩ := more
      obtain ⟨v, rfl, row⟩ := rowOf_of_parseItems others
      refine ⟨u ++ t :: v, by rw [same, List.append_assoc]; rfl, ?_⟩
      exact .cons made row ((List.Sublist.refl u).append (List.sublist_cons_self t v))
    · -- the last argument
      rw [yields_accept_iff] at more
      obtain ⟨rfl, rfl⟩ := more
      exact ⟨u, same, .single made⟩
termination_by (ts.length, loosest + 4)
decreasing_by
  · exact descends List.suffix_rfl (by decide)
  · exact Prod.Lex.left _ _ suffix.length_le

end

/-! ## Statements

The expressions of a statement stand behind a keyword, an arrow or the brackets of a jump, none of
which belongs to them.
-/

theorem rowOf_of_parseJump {stop : Span} {ts rest : Tokens} {action : Action}
    (h : (parseJump stop ts).Yields action rest) (span : Span) :
    ∃ w, ts = w ++ rest ∧ RowOf w (Stmt.exprs ⟨action, span⟩) := by
  rw [parseJump, yields_andThen_iff] at h
  obtain ⟨_, _, bracket, _, h⟩ := h
  rw [yields_andThen_iff] at h
  obtain ⟨label, _, name, _, h⟩ := h
  rw [yields_andThen_iff] at h
  obtain ⟨_, _, bracket', _, h⟩ := h
  rw [yields_andThen_iff] at h
  obtain ⟨_, inside, paren, _, h⟩ := h
  rw [yields_andThen_iff] at h
  obtain ⟨condition, _, _, inner, h⟩ := h
  rw [yields_map_iff] at h
  obtain ⟨closing, last, rfl⟩ := h
  rw [yields_expect_iff] at last
  subst last
  -- what stands before the condition does not matter
  obtain ⟨u, rfl⟩ := ((paren.trans bracket').trans name).trans bracket
  obtain ⟨w, rfl, made⟩ := madeOf_of_parseTier inner
  refine ⟨u ++ (w ++ [⟨.sign .rightParen, closing⟩]), by simp, .single (made.mono ?_)⟩
  exact (List.sublist_append_left w _).trans (List.sublist_append_right u _)

theorem rowOf_of_parseNamed {stop : Span} {name : Located Token} {label : String}
    {ts rest : Tokens} {action : Action} (h : (parseNamed stop name label ts).Yields action rest)
    (span : Span) :
    ∃ w, name :: ts = w ++ rest ∧ RowOf w (Stmt.exprs ⟨action, span⟩) := by
  unfold parseNamed at h
  split at h
  · -- an assignment
    rw [yields_after_iff, yields_after_iff, yields_map_iff] at h
    obtain ⟨value, inner, rfl⟩ := h
    obtain ⟨w, rfl, made⟩ := madeOf_of_parseTier inner
    exact ⟨_ :: _ :: w, rfl, .single (made.mono (.cons _ (List.sublist_cons_self _ w)))⟩
  · split at h
    · -- a label by itself
      rw [yields_after_iff, yields_accept_iff] at h
      obtain ⟨rfl, rfl⟩ := h
      exact ⟨[name], rfl, .nil _⟩
    · exact absurd h not_yields_reject

/-- The expressions of a statement are made of the tokens that its action used up. -/
theorem rowOf_of_parseAction {stop : Span} {ts rest : Tokens} {action : Action}
    (h : (parseAction stop ts).Yields action rest) (span : Span) :
    ∃ w, ts = w ++ rest ∧ RowOf w (Stmt.exprs ⟨action, span⟩) := by
  match ts with
  | [] => exact absurd h not_yields_reject
  | t :: ts =>
    unfold parseAction at h
    dsimp only at h
    split at h
    · -- a name
      exact rowOf_of_parseNamed h span
    · -- a command, whose expressions are its arguments
      rw [yields_after_iff, yields_map_iff] at h
      obtain ⟨⟨args, close⟩, arguments, rfl⟩ := h
      obtain ⟨w, last, rfl, -, row⟩ := rowOf_of_parseArguments arguments
      refine ⟨t :: (w ++ [last]), by simp, row.mono ?_⟩
      exact (List.sublist_append_left w _).cons t
    · -- a jump
      rw [yields_after_iff] at h
      obtain ⟨w, rfl, row⟩ := rowOf_of_parseJump h span
      exact ⟨t :: w, rfl, row.mono (List.sublist_cons_self t w)⟩
    · -- nothing else begins a statement
      exact absurd h not_yields_reject

end Parser
end BrushScript.Syntax
