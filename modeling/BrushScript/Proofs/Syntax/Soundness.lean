import BrushScript.Proofs.Syntax.Grammar
import BrushScript.Proofs.Syntax.Parsed

/-!
# What the parser of expressions accepts is an expression

`derives_of_parseTier`: the tokens that the parser of a tier used up derive the expression it gave,
at the level that the tier stands for (`levelAt`). There is one lemma for each parser, by recursion
along the parsers themselves.

A parser that succeeds has used up the front of its tokens, and each lemma gives this front by name.
So the tokens of the parts can be put together as the grammar puts them together. Where a parser
fails there is nothing to show, and those branches are closed by what `Parsed.Yields` excludes.

The lemmas call each other as the parsers do and end for the same reason: every call is for fewer
tokens, or for the same tokens and a tighter level. The pairs behind `termination_by` are those of
the parsers.
-/

namespace BrushScript.Syntax.Parser

open Parsed

/-! ## Tiers and levels

The parser counts its tiers, and the grammar names its levels. The tables of operators of both
agree, tier by tier.
-/

/-- The level of the grammar that a tier stands for. -/
def levelAt : Nat → Level
  | 0 => .power
  | 1 => .multiplicative
  | 2 => .additive
  | 3 => .relational
  | 4 => .equality
  | 5 => .and
  | _ => .or

theorem tighter_levelAt : ∀ n < loosest, (levelAt (n + 1)).tighter = levelAt n := by decide

theorem right_levelAt : ∀ n < loosest, (levelAt (n + 1)).right = levelAt n := by decide

/-- The left operand may be of the same tier exactly if the operators may follow each other. -/
theorem left_levelAt : ∀ n < loosest,
    (levelAt (n + 1)).left = if repeats n then levelAt (n + 1) else levelAt n := by decide

/-- The table of operators is that of the grammar. -/
theorem operatorAt?_eq_some_iff {n : Nat} (lt : n < loosest) {t : Token} {op : BinaryOp} :
    operatorAt? n t = some op ↔ ∃ s, t = .sign s ∧ (levelAt (n + 1)).Joins s op := by
  constructor
  · intro h
    unfold operatorAt? at h
    split at h <;> cases h <;> exact ⟨_, rfl, by constructor⟩
  · rintro ⟨s, rfl, joins⟩
    have small : n = 0 ∨ n = 1 ∨ n = 2 ∨ n = 3 ∨ n = 4 ∨ n = 5 := by
      unfold loosest at lt
      omega
    rcases small with rfl | rfl | rfl | rfl | rfl | rfl <;> cases joins <;> rfl

theorem unaryOperator?_eq_some_iff {t : Token} {op : UnaryOp} :
    unaryOperator? t = some op ↔ ∃ s, t = .sign s ∧ Opens s op := by
  constructor
  · intro h
    unfold unaryOperator? at h
    split at h <;> cases h <;> exact ⟨_, rfl, by constructor⟩
  · rintro ⟨s, rfl, opens⟩
    cases opens <;> rfl

/-! ## Parsers

Each lemma follows the text of its parser. `derives_of_parseTail` has what was read before the loop
as a hypothesis, in the form that the next operator needs: as a left operand.
-/

mutual

theorem derives_of_parseTier {stop : Span} {tier : Nat} (le : tier ≤ loosest) {ts rest : Tokens}
    {e : Expr} (h : (parseTier stop tier ts).Yields e rest) :
    ∃ w, ts = w ++ rest ∧ Derives (levelAt tier) (w.map (·.value)) e := by
  match tier with
  | 0 =>
    rw [parseTier] at h
    exact derives_of_parsePower h
  | tier + 1 =>
    rw [parseTier, yields_andThen_iff] at h
    obtain ⟨left, mid, suffix, first, tail⟩ := h
    obtain ⟨u, same, derives⟩ := derives_of_parseTier (Nat.le_of_succ_le le) first
    have operand : Derives (levelAt (tier + 1)).left (u.map (·.value)) left := by
      rw [left_levelAt tier le]
      -- where operators cannot follow each other, a left operand is tighter
      split
      · rw [← tighter_levelAt tier le] at derives
        exact .tighter derives
      · exact derives
    obtain ⟨w, rfl, derives⟩ := derives_of_parseTail le operand tail
    refine ⟨u ++ w, by rw [same, List.append_assoc], ?_⟩
    rw [List.map_append]
    exact derives
termination_by (ts.length, tier + 3)
decreasing_by
  · exact descends List.suffix_rfl (by omega)
  · exact descends List.suffix_rfl (by omega)
  · exact descends suffix (by omega)

/-- The loop over the operators of a tier starts with a left operand that was read before it. -/
theorem derives_of_parseTail {stop : Span} {tier : Nat} (lt : tier < loosest) {u : List Token}
    {left : Expr} (operand : Derives (levelAt (tier + 1)).left u left) {ts rest : Tokens} {e : Expr}
    (h : (parseTail stop tier left ts).Yields e rest) :
    ∃ w, ts = w ++ rest ∧ Derives (levelAt (tier + 1)) (u ++ w.map (·.value)) e := by
  -- where the loop ends, the left operand is the whole expression
  have stays : Derives (levelAt (tier + 1)) (u ++ ([] : Tokens).map (·.value)) left := by
    rw [List.map_nil, List.append_nil]
    exact operand.of_left
  match ts with
  | [] =>
    rw [parseTail, yields_accept_iff] at h
    obtain ⟨rfl, rfl⟩ := h
    exact ⟨[], rfl, stays⟩
  | t :: ts =>
    rw [parseTail] at h
    split at h
    · -- no operator of the tier, so the loop ends
      rw [yields_accept_iff] at h
      obtain ⟨rfl, rfl⟩ := h
      exact ⟨[], rfl, stays⟩
    · next op operator =>
      rw [yields_after_iff, yields_andThen_iff] at h
      obtain ⟨right, mid, suffix, second, tail⟩ := h
      obtain ⟨v, same, derives⟩ := derives_of_parseTier (Nat.le_of_lt lt) second
      obtain ⟨s, sign, joins⟩ := (operatorAt?_eq_some_iff lt).mp operator
      rw [← right_levelAt tier lt] at derives
      have joined : Derives (levelAt (tier + 1)) (u ++ .sign s :: v.map (·.value))
          (join op left right) := .binary joins operand derives
      split at tail
      · next again =>
        -- what was joined is the left operand of the next operator
        have operand := joined
        rw [show levelAt (tier + 1) = (levelAt (tier + 1)).left by
          rw [left_levelAt tier lt, if_pos again]] at operand
        obtain ⟨w, rfl, derives⟩ := derives_of_parseTail lt operand tail
        refine ⟨t :: (v ++ w), by simp [same], ?_⟩
        rw [List.map_cons, List.map_append, sign]
        simpa using derives
      · -- operators of the tier cannot follow each other, so the loop ends
        rw [yields_accept_iff] at tail
        obtain ⟨rfl, rfl⟩ := tail
        refine ⟨t :: v, by rw [same]; rfl, ?_⟩
        rw [List.map_cons, sign]
        exact joined
termination_by (ts.length, 0)
decreasing_by
  · exact Prod.Lex.left _ _ (by simp)
  · exact Prod.Lex.left _ _ (Nat.lt_succ_of_le suffix.length_le)

theorem derives_of_parsePower {stop : Span} {ts rest : Tokens} {e : Expr}
    (h : (parsePower stop ts).Yields e rest) :
    ∃ w, ts = w ++ rest ∧ Derives .power (w.map (·.value)) e := by
  rw [parsePower, yields_andThen_iff] at h
  obtain ⟨base, mid, suffix, first, more⟩ := h
  obtain ⟨u, same, derives⟩ := derives_of_parseUnary first
  match mid, suffix with
  | [], _ => -- nothing behind the base
    rw [yields_accept_iff] at more
    obtain ⟨rfl, rfl⟩ := more
    exact ⟨u, same, .tighter derives⟩
  | t :: mid, suffix =>
    dsimp only at more
    split at more
    · next sign =>
      rw [yields_after_iff, yields_map_iff] at more
      obtain ⟨exponent, second, rfl⟩ := more
      obtain ⟨v, rfl, derives'⟩ := derives_of_parsePower second
      refine ⟨u ++ t :: v, by simp [same], ?_⟩
      rw [List.map_append, List.map_cons, sign]
      exact .binary .pow derives derives'
    · -- no power
      rw [yields_accept_iff] at more
      obtain ⟨rfl, rfl⟩ := more
      exact ⟨u, same, .tighter derives⟩
termination_by (ts.length, 2)
decreasing_by
  · exact descends List.suffix_rfl (by decide)
  · exact Prod.Lex.left _ _ suffix.length_le

theorem derives_of_parseUnary {stop : Span} {ts rest : Tokens} {e : Expr}
    (h : (parseUnary stop ts).Yields e rest) :
    ∃ w, ts = w ++ rest ∧ Derives .unary (w.map (·.value)) e := by
  match ts with
  | [] => -- no tokens, which a primary refuses
    rw [parseUnary] at h
    obtain ⟨w, same, derives⟩ := derives_of_parsePrimary h
    exact ⟨w, same, .tighter derives⟩
  | t :: ts =>
    rw [parseUnary] at h
    split at h
    · -- no operator in front
      obtain ⟨w, same, derives⟩ := derives_of_parsePrimary h
      exact ⟨w, same, .tighter derives⟩
    · next op operator =>
      rw [yields_after_iff, yields_map_iff] at h
      obtain ⟨operand, inner, rfl⟩ := h
      obtain ⟨w, rfl, derives⟩ := derives_of_parseUnary inner
      obtain ⟨s, sign, opens⟩ := unaryOperator?_eq_some_iff.mp operator
      refine ⟨t :: w, rfl, ?_⟩
      rw [List.map_cons, sign]
      exact .unary opens derives
termination_by (ts.length, 1)
decreasing_by
  · exact descends List.suffix_rfl (by decide)
  · exact descends List.suffix_rfl (by decide)
  · exact Prod.Lex.left _ _ (by simp)

theorem derives_of_parsePrimary {stop : Span} {ts rest : Tokens} {e : Expr}
    (h : (parsePrimary stop ts).Yields e rest) :
    ∃ w, ts = w ++ rest ∧ Derives .primary (w.map (·.value)) e := by
  match ts with
  | [] =>
    rw [parsePrimary] at h
    exact absurd h not_yields_reject
  | t :: ts =>
    rw [parsePrimary] at h
    split at h
    -- one branch for each token that a primary may begin with, and one for all others
    · next text kind => -- a number, unless it is out of range
      split at h
      · next n decimal =>
        rw [yields_after_iff, yields_accept_iff] at h
        obtain ⟨rfl, rfl⟩ := h
        refine ⟨[t], rfl, ?_⟩
        rw [List.map_singleton, kind]
        exact .number decimal
      · -- a number beyond 64 bits
        exact absurd h not_yields_error
    · next body kind => -- a text
      rw [yields_after_iff, yields_accept_iff] at h
      obtain ⟨rfl, rfl⟩ := h
      refine ⟨[t], rfl, ?_⟩
      rw [List.map_singleton, kind]
      exact .string
    · next name kind => -- a name
      rw [yields_after_iff, yields_accept_iff] at h
      obtain ⟨rfl, rfl⟩ := h
      refine ⟨[t], rfl, ?_⟩
      rw [List.map_singleton, kind]
      exact .name
    · -- a command, which has no value
      exact absurd h not_yields_reject
    · next q kind => -- a query with its arguments
      rw [yields_after_iff, yields_map_iff] at h
      obtain ⟨⟨args, close⟩, arguments, rfl⟩ := h
      obtain ⟨w, rfl, derives, count⟩ := derives_of_parseArguments arguments
      obtain ⟨u, same, items, rfl, rfl, each⟩ := derives
      refine ⟨t :: w, rfl, ?_⟩
      rw [List.map_cons, kind, same]
      rw [List.length_map] at count
      exact .call count each
    · next kind => -- an expression between parentheses
      rw [yields_after_iff, yields_andThen_iff] at h
      obtain ⟨inner, mid, suffix, first, close⟩ := h
      obtain ⟨w, rfl, derives⟩ := derives_of_parseTier (Nat.le_refl _) first
      rw [yields_map_iff] at close
      obtain ⟨span, close, rfl⟩ := close
      rw [yields_expect_iff] at close
      subst close
      refine ⟨t :: (w ++ [⟨.sign .rightParen, span⟩]), by simp, ?_⟩
      rw [List.map_cons, List.map_append, kind]
      exact .parens derives
    · -- a token that no expression begins with
      exact absurd h not_yields_reject
termination_by (ts.length, 0)
decreasing_by
  · exact Prod.Lex.left _ _ (by simp)
  · exact Prod.Lex.left _ _ (by simp)

theorem derives_of_parseArguments {stop : Span} {b : Builtin} {ts rest : Tokens}
    {args : List Expr} {close : Span} (h : (parseArguments stop b ts).Yields (args, close) rest) :
    ∃ w, ts = w ++ rest ∧
      (∃ u, w.map (·.value) = .sign .leftParen :: (u ++ [.sign .rightParen]) ∧
        DerivesList u args) ∧ args.length = b.arity := by
  rw [parseArguments, yields_andThen_iff] at h
  obtain ⟨opening, mid, suffix, first, h⟩ := h
  rw [yields_expect_iff] at first
  rw [yields_andThen_iff] at h
  obtain ⟨items, mid', suffix', list, h⟩ := h
  rw [yields_andThen_iff] at h
  obtain ⟨span, mid'', suffix'', last, h⟩ := h
  rw [yields_expect_iff] at last
  obtain ⟨w, rfl, derives⟩ := derives_of_parseList list
  subst first last
  split at h
  · next count =>
    rw [yields_accept_iff] at h
    obtain ⟨same, rfl⟩ := h
    cases same
    refine ⟨⟨.sign .leftParen, opening⟩ :: (w ++ [⟨.sign .rightParen, close⟩]), by simp, ?_, count⟩
    exact ⟨w.map (·.value), by simp, derives⟩
  · -- as many arguments as the builtin has parameters, or a problem
    exact absurd h not_yields_error
termination_by (ts.length, loosest + 6)
decreasing_by exact descends suffix (by decide)

theorem derives_of_parseList {stop : Span} {b : Builtin} {ts rest : Tokens} {args : List Expr}
    (h : (parseList stop b ts).Yields args rest) :
    ∃ w, ts = w ++ rest ∧ DerivesList (w.map (·.value)) args := by
  rw [parseList] at h
  split at h
  · -- the parenthesis closes at once
    rw [yields_accept_iff] at h
    obtain ⟨rfl, rfl⟩ := h
    exact ⟨[], rfl, .nil⟩
  · split at h
    · -- arguments for a builtin that takes none
      exact absurd h not_yields_reject
    · obtain ⟨w, same, -, derives⟩ := derives_of_parseItems h
      exact ⟨w, same, derives⟩
termination_by (ts.length, loosest + 5)
decreasing_by exact descends List.suffix_rfl (by decide)

theorem derives_of_parseItems {stop : Span} {ts rest : Tokens} {args : List Expr}
    (h : (parseItems stop ts).Yields args rest) :
    ∃ w, ts = w ++ rest ∧ args ≠ [] ∧ DerivesList (w.map (·.value)) args := by
  rw [parseItems, yields_andThen_iff] at h
  obtain ⟨item, mid, suffix, first, more⟩ := h
  obtain ⟨u, same, derives⟩ := derives_of_parseTier (Nat.le_refl _) first
  match mid, suffix with
  | [], _ => -- the last argument, at the end of the tokens
    rw [yields_accept_iff] at more
    obtain ⟨rfl, rfl⟩ := more
    exact ⟨u, same, nofun, .single derives⟩
  | t :: mid, suffix =>
    dsimp only at more
    split at more
    · next sign =>
      rw [yields_after_iff, yields_map_iff] at more
      obtain ⟨items, others, rfl⟩ := more
      obtain ⟨v, rfl, nonempty, derives'⟩ := derives_of_parseItems others
      obtain ⟨e, items, rfl⟩ := List.exists_cons_of_ne_nil nonempty
      refine ⟨u ++ t :: v, by simp [same], nofun, ?_⟩
      rw [List.map_append, List.map_cons, sign]
      exact derives'.cons derives
    · -- the last argument, as no comma follows
      rw [yields_accept_iff] at more
      obtain ⟨rfl, rfl⟩ := more
      exact ⟨u, same, nofun, .single derives⟩
termination_by (ts.length, loosest + 4)
decreasing_by
  · exact descends List.suffix_rfl (by decide)
  · exact Prod.Lex.left _ _ suffix.length_le

end

end BrushScript.Syntax.Parser
