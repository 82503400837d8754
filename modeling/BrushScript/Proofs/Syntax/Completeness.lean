import BrushScript.Proofs.Syntax.Relocate
import BrushScript.Proofs.Syntax.Soundness

/-!
# What is an expression, the parser accepts

The tokens of an expression may be followed by anything but an operator that would take the
expression, or a part of it, as its left operand: `Stops`. Then the parser of the level reads these
tokens and no more, and gives the expression up to its places (`understands_of_derives`, by
induction on the derivation).

An operator that groups to the left is the exception: it may follow its own left operand. So what is
shown of a left operand is that the parser comes to the loop of the tier with this operand in hand,
and goes on from there (`LeftReads`).

* `reads_leaf`, `reads_parens`, `reads_operand`, `reads_power`: one rule of the grammar each;
* `exists_joined`: an operator of a tier and its right operand, behind a left operand;
* `reads_call`: a query with its arguments, one by one;
* `Understands`: both claims about a derivation, which the induction needs together, since it does
  not know what the expression will be the operand of.

`parseTier_exact` is both directions for whole expressions, and that there is one tree. The tree is
one because the parser is a function: whatever derives some tokens is what the parser gives for
them. So ambiguity does not have to be looked for in the grammar.
-/

namespace BrushScript.Syntax.Parser

open Parsed

/-! ## What may follow

What may follow an expression is said in terms of the grammar, by the levels of its operators, and
used in terms of the parser, which looks for an operator of its own tier.
-/

/-- The place of a level in the order from tight to loose. -/
def looseness : Level → Nat
  | .primary => 0
  | .unary => 1
  | .power => 2
  | .multiplicative => 3
  | .additive => 4
  | .relational => 5
  | .equality => 6
  | .and => 7
  | .or => 8

/-- The next token is no operator of the level or of a tighter one. -/
def Stops (l : Level) (more : Tokens) : Prop :=
  ∀ t ∈ more.head?, ∀ (l' : Level) (s : Sign) (op : BinaryOp),
    t.value = .sign s → l'.Joins s op → looseness l < looseness l'

-- where a looser operator may follow, it may follow what is tighter
theorem looseness_tighter_le (l : Level) : looseness l.tighter ≤ looseness l := by
  cases l <;> decide

theorem Stops.tighter {l : Level} {more : Tokens} (h : Stops l more) : Stops l.tighter more := by
  intro t head l' s op sign joins
  exact Nat.lt_of_le_of_lt (looseness_tighter_le l) (h t head l' s op sign joins)

theorem stops_unary (more : Tokens) : Stops .unary more := by
  intro t head l' s op sign joins
  cases joins <;> decide

/-- An operator stops what is tighter than its level. -/
theorem stops_of_joins {l : Level} {s : Sign} {op : BinaryOp} (joins : l.Joins s op)
    {t : Located Token} (sign : t.value = .sign s) (more : Tokens) :
    Stops l.tighter (t :: more) := by
  intro t' head l' s' op' sign' joins'
  cases head
  cases sign.symm.trans sign'
  cases joins.level_eq joins'
  cases joins <;> decide

/-- The tokens that an expression may stand in front of. -/
def followers : List Token :=
  [.newline, .eof, .sign .rightParen, .sign .rightBracket, .sign .comma]

theorem stops_of_follower {t : Located Token} (follower : t.value ∈ followers) (l : Level)
    (more : Tokens) : Stops l (t :: more) := by
  intro t' head l' s op sign joins
  cases head
  rw [sign] at follower
  cases joins <;> exact absurd follower (by decide)

theorem Stops.operatorAt?_eq_none {n : Nat} (lt : n < loosest) {t : Located Token} {more : Tokens}
    (h : Stops (levelAt (n + 1)) (t :: more)) : operatorAt? n t.value = none := by
  rw [Option.eq_none_iff_forall_ne_some]
  intro op operator
  obtain ⟨s, sign, joins⟩ := (operatorAt?_eq_some_iff lt).mp operator
  exact Nat.lt_irrefl _ (h t rfl _ s op sign joins)

theorem Stops.ne_starStar {t : Located Token} {more : Tokens} (h : Stops .power (t :: more)) :
    t.value ≠ .sign .starStar := by
  intro sign
  exact Nat.lt_irrefl _ (h t rfl _ _ _ sign .pow)

/-! ## Parsers by level

A level of the grammar is one of three forms for the parser: the two levels with a parser of their
own, the power with its one operator, and the tiers that loop.
-/

/-- The parser of a level. -/
def parseLevel (stop : Span) : Level → (ts : Tokens) → Parsed Expr ts
  | .primary, ts => parsePrimary stop ts
  | .unary, ts => parseUnary stop ts
  | .power, ts => parseTier stop 0 ts
  | .multiplicative, ts => parseTier stop 1 ts
  | .additive, ts => parseTier stop 2 ts
  | .relational, ts => parseTier stop 3 ts
  | .equality, ts => parseTier stop 4 ts
  | .and, ts => parseTier stop 5 ts
  | .or, ts => parseTier stop 6 ts

theorem parseLevel_levelAt (stop : Span) {n : Nat} (le : n ≤ loosest) (ts : Tokens) :
    parseLevel stop (levelAt n) ts = parseTier stop n ts := by
  match n, le with
  | 0, _ | 1, _ | 2, _ | 3, _ | 4, _ | 5, _ | 6, _ => rfl
  | n + 7, le => exact absurd le (by unfold loosest; omega)

/-- Either a level has a parser of its own, or it is a tier of binary operators. -/
theorem level_cases (l : Level) :
    l = .primary ∨ l = .unary ∨ l = .power ∨ ∃ n < loosest, l = levelAt (n + 1) := by
  cases l with
  | primary => exact .inl rfl
  | unary => exact .inr (.inl rfl)
  | power => exact .inr (.inr (.inl rfl))
  | multiplicative => exact .inr (.inr (.inr ⟨0, by decide, rfl⟩))
  | additive => exact .inr (.inr (.inr ⟨1, by decide, rfl⟩))
  | relational => exact .inr (.inr (.inr ⟨2, by decide, rfl⟩))
  | equality => exact .inr (.inr (.inr ⟨3, by decide, rfl⟩))
  | and => exact .inr (.inr (.inr ⟨4, by decide, rfl⟩))
  | or => exact .inr (.inr (.inr ⟨5, by decide, rfl⟩))

variable {stop : Span}

theorem yields_parseTail {n : Nat} (lt : n < loosest) {more : Tokens}
    (stops : Stops (levelAt (n + 1)) more) (e : Expr) :
    (parseTail stop n e more).Yields e more := by
  cases more with
  | nil =>
    rw [parseTail]
    exact yields_accept e []
  | cons t more =>
    rw [parseTail, stops.operatorAt?_eq_none lt]
    exact yields_accept e (t :: more)

/-! ## Reading a derivation

Whatever follows, the parser of a level reads the tokens of an expression and stops in front of
that. Each lemma is about one rule of the grammar and has the parts of the expression as hypotheses.
What comes behind a part is what it has to be stopped by.
-/

/-- The parser of a level reads an expression up to its places, whatever follows that stops it. -/
def Reads (stop : Span) (l : Level) (us : Tokens) (e : Expr) : Prop :=
  ∀ more, Stops l more →
    ∃ e', e'.bare = e.bare ∧ (parseLevel stop l (us ++ more)).Yields e' more

/-- The parser of a tier reads a left operand up to its places and goes on with it. -/
def LeftReads (stop : Span) (n : Nat) (us : Tokens) (e : Expr) : Prop :=
  ∀ more, Stops (levelAt n) more →
    ∃ e', e'.bare = e.bare ∧ ∀ {a rest}, (parseTail stop n e' more).Yields a rest →
      (parseTier stop (n + 1) (us ++ more)).Yields a rest

section

variable {n : Nat} {us vs : Tokens} {t : Located Token} {left right e : Expr}

/-- What is tighter than a tier may be a left operand of it. -/
theorem Reads.leftReads (lt : n < loosest) (h : Reads stop (levelAt n) us e) :
    LeftReads stop n us e := by
  intro more stops
  obtain ⟨e', same, yields⟩ := h more stops
  rw [parseLevel_levelAt stop (Nat.le_of_lt lt)] at yields
  refine ⟨e', same, fun {a rest} tail => ?_⟩
  rw [parseTier, yields_andThen_iff]
  exact ⟨e', more, List.suffix_append us more, yields, tail⟩

/-- Where the tier ends, a left operand was the whole expression. -/
theorem LeftReads.reads (lt : n < loosest) (h : LeftReads stop n us e) :
    Reads stop (levelAt (n + 1)) us e := by
  intro more stops
  have inner : Stops (levelAt n) more := by
    rw [← tighter_levelAt n lt]
    exact stops.tighter
  obtain ⟨e', same, goes⟩ := h more inner
  refine ⟨e', same, ?_⟩
  rw [parseLevel_levelAt stop lt]
  exact goes (yields_parseTail lt stops e')

/-- Behind an operator and its right operand the loop goes on with both joined, if the operators of
the tier may follow each other, and is over if they may not. -/
theorem exists_joined (lt : n < loosest) {s : Sign} {op : BinaryOp} (sign : t.value = .sign s)
    (joins : (levelAt (n + 1)).Joins s op) (first : LeftReads stop n us left)
    (second : Reads stop (levelAt n) vs right) (span : Span) {more : Tokens}
    (stops : Stops (levelAt n) more) :
    ∃ e', e'.bare = (Expr.binary op left right span).bare ∧ ∀ {a rest},
      (if repeats n then parseTail stop n e' more else .accept e' more).Yields a rest →
        (parseTier stop (n + 1) (us ++ (t :: vs) ++ more)).Yields a rest := by
  -- for the left operand the operator is what follows
  have before : Stops (levelAt n) (t :: (vs ++ more)) := by
    rw [← tighter_levelAt n lt]
    exact stops_of_joins joins sign _
  have operator : operatorAt? n t.value = some op :=
    (operatorAt?_eq_some_iff lt).mpr ⟨s, sign, joins⟩
  obtain ⟨left', sameLeft, goes⟩ := first _ before
  obtain ⟨right', sameRight, reads⟩ := second more stops
  rw [parseLevel_levelAt stop (Nat.le_of_lt lt)] at reads
  refine ⟨join op left' right',
    by rw [join, Expr.bare_binary, Expr.bare_binary, sameLeft, sameRight],
    fun {a rest} tail => ?_⟩
  rw [List.append_assoc]
  apply goes
  rw [parseTail, operator]
  show ((parseTier stop n (vs ++ more)).andThen _ |>.after t).Yields a rest
  rw [yields_after_iff, yields_andThen_iff]
  exact ⟨right', more, List.suffix_append vs more, reads, tail⟩

theorem reads_power (sign : t.value = .sign .starStar) (first : Reads stop .unary us left)
    (second : Reads stop .power vs right) (span : Span) :
    Reads stop .power (us ++ (t :: vs)) (.binary .pow left right span) := by
  intro more stops
  -- no operator takes a unary expression apart, so anything may follow the base
  obtain ⟨left', sameLeft, base⟩ := first _ (stops_unary (t :: (vs ++ more)))
  obtain ⟨right', sameRight, exponent⟩ := second more stops
  refine ⟨join .pow left' right',
    by rw [join, Expr.bare_binary, Expr.bare_binary, sameLeft, sameRight], ?_⟩
  show (parseTier stop 0 _).Yields _ _
  rw [parseTier, parsePower, yields_andThen_iff, List.append_assoc]
  refine ⟨left', t :: (vs ++ more), List.suffix_append us _, base, ?_⟩
  dsimp only
  rw [if_pos sign, yields_after_iff, yields_map_iff]
  refine ⟨right', ?_, rfl⟩
  have exponent : (parseTier stop 0 (vs ++ more)).Yields right' more := exponent
  rw [parseTier] at exponent
  exact exponent

/-- A primary is no operand of an operator in front of it. -/
theorem Reads.unary (h : Reads stop .primary us e) : Reads stop .unary us e := by
  intro more stops
  obtain ⟨e', same, yields⟩ := h more stops.tighter
  refine ⟨e', same, ?_⟩
  have yields : (parsePrimary stop (us ++ more)).Yields e' more := yields
  show (parseUnary stop (us ++ more)).Yields e' more
  generalize us ++ more = ts at yields
  cases ts with
  | nil =>
    rw [parseUnary]
    exact yields
  | cons t ts =>
    rw [parseUnary]
    split
    · -- the token is no operator, and the primary is all there is
      exact yields
    · next op operator =>
      -- a primary does not begin with an operator
      obtain ⟨s, sign, opens⟩ := unaryOperator?_eq_some_iff.mp operator
      rw [parsePrimary, sign] at yields
      cases opens <;> exact absurd yields not_yields_reject

theorem Reads.power (h : Reads stop .unary us e) : Reads stop .power us e := by
  intro more stops
  obtain ⟨e', same, yields⟩ := h more stops.tighter
  refine ⟨e', same, ?_⟩
  show (parseTier stop 0 _).Yields _ _
  rw [parseTier, parsePower, yields_andThen_iff]
  refine ⟨e', more, List.suffix_append us more, yields, ?_⟩
  cases more with
  | nil => exact yields_accept e' []
  | cons t more =>
    dsimp only
    rw [if_neg stops.ne_starStar]
    exact yields_accept e' (t :: more)

theorem reads_leaf (e' : Expr) (same : e'.bare = e.bare)
    (leaf : ∀ more, parsePrimary stop (t :: more) = (Parsed.accept e' more).after t) :
    Reads stop .primary [t] e := by
  intro more _
  refine ⟨e', same, ?_⟩
  show (parsePrimary stop (t :: more)).Yields e' more
  rw [leaf, yields_after_iff]
  exact yields_accept e' more

theorem reads_operand {op : UnaryOp} {s : Sign} (sign : t.value = .sign s) (opens : Opens s op)
    (inner : Reads stop .unary us e) (span : Span) :
    Reads stop .unary (t :: us) (.unary op e span) := by
  intro more stops
  obtain ⟨e', same, yields⟩ := inner more stops
  refine ⟨.unary op e' (t.span.merge e'.span), by rw [Expr.bare_unary, Expr.bare_unary, same], ?_⟩
  have operator : unaryOperator? t.value = some op :=
    unaryOperator?_eq_some_iff.mpr ⟨s, sign, opens⟩
  show (parseUnary stop (t :: (us ++ more))).Yields _ _
  rw [parseUnary, operator]
  show ((parseUnary stop (us ++ more)).map _ |>.after t).Yields _ _
  rw [yields_after_iff, yields_map_iff]
  exact ⟨e', yields, rfl⟩

theorem reads_parens (opening : t.value = .sign .leftParen) {t' : Located Token}
    (closing : t'.value = .sign .rightParen) (inner : Reads stop .or us e) :
    Reads stop .primary (t :: (us ++ [t'])) e := by
  intro more _
  have follower : t'.value ∈ followers := by
    rw [closing]
    decide
  obtain ⟨e', same, yields⟩ := inner _ (stops_of_follower follower _ more)
  refine ⟨e', same, ?_⟩
  have yields : (parseTier stop loosest (us ++ t' :: more)).Yields e' (t' :: more) := yields
  show (parsePrimary stop (t :: (us ++ [t'] ++ more))).Yields _ _
  rw [List.append_assoc, List.singleton_append, parsePrimary, opening]
  show (((parseTier stop loosest (us ++ t' :: more)).andThen _).after t).Yields _ _
  rw [yields_after_iff, yields_andThen_iff]
  refine ⟨e', t' :: more, List.suffix_append us _, yields, ?_⟩
  rw [yields_map_iff]
  exact ⟨t'.span, yields_expect_iff.mpr (by rw [← closing]), rfl⟩

end

/-! ## Calls

The items of a list follow each other with a comma between them and the closing parenthesis behind
the last. Both are followers, so each item is read on its own.
-/

theorem exists_parseItems {items : List (List Token × Expr)} (nonempty : items ≠ [])
    (each : ∀ item ∈ items, ∀ us : Tokens, us.map (·.value) = item.1 → Reads stop .or us item.2)
    {us : Tokens} (same : us.map (·.value) = commaSeparated (items.map Prod.fst))
    {t : Located Token} (closing : t.value = .sign .rightParen) (more : Tokens) :
    ∃ args, args.map Expr.bare = items.map (·.2.bare) ∧
      (parseItems stop (us ++ t :: more)).Yields args (t :: more) := by
  induction items generalizing us with
  | nil => exact absurd rfl nonempty
  | cons item items ih =>
    cases items with
    | nil => -- the last item, behind which stands the parenthesis
      have same : us.map (·.value) = item.1 := by
        rw [same]
        simp [commaSeparated, List.intercalate]
      have follower : t.value ∈ followers := by
        rw [closing]
        decide
      obtain ⟨e, bare, yields⟩ :=
        each item List.mem_cons_self us same _ (stops_of_follower follower _ more)
      refine ⟨[e], by simp [bare], ?_⟩
      rw [parseItems, yields_andThen_iff]
      refine ⟨e, t :: more, List.suffix_append us _, yields, ?_⟩
      dsimp only
      rw [if_neg (by rw [closing]; decide)]
      exact yields_accept [e] (t :: more)
    | cons item' items => -- an item with others behind it, so that a comma follows
      rw [List.map_cons, List.map_cons, commaSeparated_cons, List.map_eq_append_iff] at same
      obtain ⟨u, v, rfl, first, others⟩ := same
      rw [List.map_eq_cons_iff] at others
      obtain ⟨comma, v, rfl, sign, others⟩ := others
      have follower : comma.value ∈ followers := by
        rw [sign]
        decide
      obtain ⟨e, bare, yields⟩ := each item List.mem_cons_self u first _
        (stops_of_follower follower _ (v ++ t :: more))
      obtain ⟨args, bares, rest⟩ := ih (List.cons_ne_nil item' items)
        (fun item mem => each item (List.mem_cons_of_mem _ mem)) others
      refine ⟨e :: args, by rw [List.map_cons, bare, bares]; rfl, ?_⟩
      rw [List.append_assoc, parseItems, yields_andThen_iff]
      refine ⟨e, comma :: (v ++ t :: more), List.suffix_append u _, yields, ?_⟩
      dsimp only
      rw [if_pos sign, yields_after_iff, yields_map_iff]
      exact ⟨args, rest, rfl⟩

theorem exists_parseArguments (b : Builtin) {items : List (List Token × Expr)}
    (count : items.length = b.arity)
    (each : ∀ item ∈ items, Derives .or item.1 item.2 ∧
      ∀ us : Tokens, us.map (·.value) = item.1 → Reads stop .or us item.2)
    {us : Tokens} (same : us.map (·.value) = commaSeparated (items.map Prod.fst))
    {t t' : Located Token} (opening : t.value = .sign .leftParen)
    (closing : t'.value = .sign .rightParen) (more : Tokens) :
    ∃ args, args.map Expr.bare = items.map (·.2.bare) ∧
      (parseArguments stop b (t :: (us ++ t' :: more))).Yields (args, t'.span) more := by
  have list : ∃ args, args.map Expr.bare = items.map (·.2.bare) ∧
      (parseList stop b (us ++ t' :: more)).Yields args (t' :: more) := by
    cases items with
    | nil =>
      rw [show us = [] from List.map_eq_nil_iff.mp same]
      refine ⟨[], rfl, ?_⟩
      rw [List.nil_append, parseList, if_pos (by rw [List.head?_cons, Option.map_some, closing])]
      exact yields_accept [] (t' :: more)
    | cons item items =>
      obtain ⟨args, bares, yields⟩ := exists_parseItems (List.cons_ne_nil item items)
        (fun item mem => (each item mem).2) same closing more
      obtain ⟨first, rest, head, other⟩ := (each item List.mem_cons_self).1.exists_head
      -- the list is not over at once: its first token begins an expression
      have begins : (us ++ t' :: more).head?.map (·.value) = some first := by
        rw [← List.head?_map, List.map_append, same, List.map_cons]
        cases items with
        | nil => simp [commaSeparated, List.intercalate, head]
        | cons item' items => rw [List.map_cons, commaSeparated_cons, head]; rfl
      refine ⟨args, bares, ?_⟩
      rw [parseList, begins, if_neg (by simpa using other),
        if_neg (by rw [← count]; exact Nat.succ_ne_zero _)]
      exact yields
  obtain ⟨args, bares, yields⟩ := list
  refine ⟨args, bares, ?_⟩
  have counted : args.length = b.arity := by
    rw [← count, ← List.length_map Expr.bare, bares, List.length_map]
  rw [parseArguments, yields_andThen_iff]
  refine ⟨t.span, us ++ t' :: more, List.suffix_cons t _, ?_, ?_⟩
  · rw [yields_expect_iff, ← opening]
  rw [yields_andThen_iff]
  refine ⟨args, t' :: more, List.suffix_append us _, yields, ?_⟩
  rw [yields_andThen_iff]
  refine ⟨t'.span, more, List.suffix_cons t' more, ?_, ?_⟩
  · rw [yields_expect_iff, ← closing]
  rw [if_pos counted]
  exact yields_accept (args, t'.span) more

theorem reads_call {q : Query} {items : List (List Token × Expr)} {t t' t'' : Located Token}
    {us : Tokens} (kind : t.value = .builtin (.query q)) (opening : t'.value = .sign .leftParen)
    (closing : t''.value = .sign .rightParen) (count : items.length = q.params.length)
    (each : ∀ item ∈ items, Derives .or item.1 item.2 ∧
      ∀ us : Tokens, us.map (·.value) = item.1 → Reads stop .or us item.2)
    (same : us.map (·.value) = commaSeparated (items.map Prod.fst)) (span : Span) :
    Reads stop .primary (t :: t' :: (us ++ [t'']))
      (.call (.query q) (items.map Prod.snd) span) := by
  intro more _
  obtain ⟨args, bares, yields⟩ :=
    exists_parseArguments (.query q) count each same opening closing more
  refine ⟨.call (.query q) args (t.span.merge t''.span), ?_, ?_⟩
  · rw [Expr.bare_call, Expr.bare_call, bares, List.map_map]
    rfl
  · show (parsePrimary stop (t :: t' :: (us ++ [t''] ++ more))).Yields _ _
    rw [List.append_assoc, List.singleton_append, parsePrimary, kind]
    show ((parseArguments stop (.query q) (t' :: (us ++ t'' :: more))).map _ |>.after t).Yields _ _
    rw [yields_after_iff, yields_map_iff]
    exact ⟨(args, t''.span), yields, rfl⟩

/-! ## Whole expressions

The induction over the derivation. The hypotheses of a rule are about tokens without places, so the
tokens that were given are first split where the rule splits them.
-/

theorem levelAt_succ_ne : ∀ n < loosest, levelAt (n + 1) ≠ .primary ∧ levelAt (n + 1) ≠ .unary ∧
    levelAt (n + 1) ≠ .power := by decide

/-- What the parser makes of the tokens of an expression, alone or as a left operand. -/
structure Understands (stop : Span) (l : Level) (us : Tokens) (e : Expr) : Prop where
  reads : Reads stop l us e
  leftReads : ∀ n < loosest, l = levelAt (n + 1) → repeats n = true → LeftReads stop n us e

theorem Understands.of_primary {us : Tokens} {e : Expr} (h : Reads stop .primary us e) :
    Understands stop .primary us e where
  reads := h
  leftReads n lt same := absurd same.symm (levelAt_succ_ne n lt).1

theorem Understands.of_unary {us : Tokens} {e : Expr} (h : Reads stop .unary us e) :
    Understands stop .unary us e where
  reads := h
  leftReads n lt same := absurd same.symm (levelAt_succ_ne n lt).2.1

theorem Understands.of_power {us : Tokens} {e : Expr} (h : Reads stop .power us e) :
    Understands stop .power us e where
  reads := h
  leftReads n lt same := absurd same.symm (levelAt_succ_ne n lt).2.2

theorem levelAt_inj : ∀ n < loosest, ∀ m < loosest, levelAt (n + 1) = levelAt (m + 1) → n = m := by
  decide

theorem Understands.of_leftReads {n : Nat} (lt : n < loosest) {us : Tokens} {e : Expr}
    (h : LeftReads stop n us e) : Understands stop (levelAt (n + 1)) us e where
  reads := h.reads lt
  leftReads m lt' same _ := levelAt_inj n lt m lt' same ▸ h

theorem understands_tighter {l : Level} {us : Tokens} {e : Expr}
    (h : Understands stop l.tighter us e) : Understands stop l us e := by
  -- nothing is tighter than a primary
  rcases level_cases l with rfl | rfl | rfl | ⟨n, lt, rfl⟩
  · exact h
  · exact .of_unary h.reads.unary
  · exact .of_power h.reads.power
  · rw [tighter_levelAt n lt] at h
    exact .of_leftReads lt (h.reads.leftReads lt)

theorem understands_binary {l : Level} {us vs : Tokens} {t : Located Token} {s : Sign}
    {op : BinaryOp} {left right : Expr} (sign : t.value = .sign s) (joins : l.Joins s op)
    (first : Understands stop l.left us left) (second : Understands stop l.right vs right)
    (span : Span) : Understands stop l (us ++ (t :: vs)) (.binary op left right span) := by
  rcases level_cases l with rfl | rfl | rfl | ⟨n, lt, rfl⟩
  · cases joins
  · cases joins
  · cases joins
    exact .of_power (reads_power sign first.reads second.reads span)
  · rw [right_levelAt n lt] at second
    rw [left_levelAt n lt] at first
    by_cases again : repeats n
    · -- the left operand is of the same level: the loop has it in hand and goes on
      rw [if_pos again] at first
      apply Understands.of_leftReads lt
      intro more stops
      obtain ⟨e', same, goes⟩ := exists_joined lt sign joins
        (first.leftReads n lt rfl again) second.reads span stops
      rw [if_pos again] at goes
      exact ⟨e', same, goes⟩
    · -- both operands are tighter: there is one operator, and the level ends behind it
      rw [if_neg again] at first
      refine ⟨fun more stops => ?_, ?_⟩
      · have inner : Stops (levelAt n) more := by
          rw [← tighter_levelAt n lt]
          exact stops.tighter
        obtain ⟨e', same, goes⟩ := exists_joined lt sign joins
          (first.reads.leftReads lt) second.reads span inner
        rw [if_neg again] at goes
        refine ⟨e', same, ?_⟩
        rw [parseLevel_levelAt stop lt]
        exact goes (yields_accept e' more)
      · intro m lt' same more
        cases levelAt_inj n lt m lt' same
        exact absurd more again

/-- By induction on the derivation: the parser of the level understands the tokens. -/
theorem understands_of_derives (stop : Span) {l : Level} {w : List Token} {e : Expr}
    (h : Derives l w e) {us : Tokens} (same : us.map (·.value) = w) : Understands stop l us e := by
  induction h generalizing us with
  | tighter _ ih => exact understands_tighter (ih same) -- nothing but the level changes
  | binary joins _ _ first second => -- two operands and the operator between them
    obtain ⟨us, vs, rfl, left, right⟩ := List.map_eq_append_iff.mp same
    obtain ⟨t, vs, rfl, sign, right⟩ := List.map_eq_cons_iff.mp right
    exact understands_binary sign joins (first left) (second right) _
  | unary opens _ ih => -- an operator and its operand
    obtain ⟨t, us, rfl, sign, inner⟩ := List.map_eq_cons_iff.mp same
    exact .of_unary (reads_operand sign opens (ih inner).reads _)
  | @number digits n span decimal =>
    obtain ⟨t, us, rfl, kind, rest⟩ := List.map_eq_cons_iff.mp same
    rw [List.map_eq_nil_iff.mp rest]
    refine .of_primary (reads_leaf (.number n t.span) rfl fun more => ?_)
    rw [parsePrimary, kind]
    dsimp only
    rw [decimal]
  | @string body =>
    obtain ⟨t, us, rfl, kind, rest⟩ := List.map_eq_cons_iff.mp same
    rw [List.map_eq_nil_iff.mp rest]
    refine .of_primary (reads_leaf (.string body t.span) rfl fun more => ?_)
    rw [parsePrimary, kind]
  | @name name =>
    obtain ⟨t, us, rfl, kind, rest⟩ := List.map_eq_cons_iff.mp same
    rw [List.map_eq_nil_iff.mp rest]
    refine .of_primary (reads_leaf (.var name t.span) rfl fun more => ?_)
    rw [parsePrimary, kind]
  | @call q items span count each ih =>
    obtain ⟨t, us, rfl, kind, rest⟩ := List.map_eq_cons_iff.mp same
    obtain ⟨t', us, rfl, opening, rest⟩ := List.map_eq_cons_iff.mp rest
    obtain ⟨us, last, rfl, list, rest⟩ := List.map_eq_append_iff.mp rest
    obtain ⟨t'', last, rfl, closing, rest⟩ := List.map_eq_cons_iff.mp rest
    rw [List.map_eq_nil_iff.mp rest]
    exact .of_primary (reads_call kind opening closing count
      (fun item mem => ⟨each item mem, fun us same => (ih item mem same).reads⟩) list span)
  | parens _ ih => -- both parentheses and what is in them
    obtain ⟨t, us, rfl, opening, rest⟩ := List.map_eq_cons_iff.mp same
    obtain ⟨us, last, rfl, inner, rest⟩ := List.map_eq_append_iff.mp rest
    obtain ⟨t', last, rfl, closing, rest⟩ := List.map_eq_cons_iff.mp rest
    rw [List.map_eq_nil_iff.mp rest]
    exact .of_primary (reads_parens opening closing (ih inner).reads)

/-- The parser of expressions is the grammar: in front of a follower it reads the tokens of an
expression, no more and no less, and gives the expression up to its places; the tokens that it reads
before it gives an expression derive this expression; and tokens derive one expression only. -/
theorem parseTier_exact (stop : Span) :
    (∀ (w : Tokens) (e : Expr), Derives .or (w.map (·.value)) e →
      ∀ (follower : Located Token) (more : Tokens), follower.value ∈ followers →
        ∃ e', e'.bare = e.bare ∧
          (parseTier stop loosest (w ++ follower :: more)).outcome = .ok e' ∧
          (parseTier stop loosest (w ++ follower :: more)).rest = follower :: more) ∧
    (∀ (ts : Tokens) (e : Expr), (parseTier stop loosest ts).outcome = .ok e →
      ∃ w, ts = w ++ (parseTier stop loosest ts).rest ∧ Derives .or (w.map (·.value)) e) ∧
    ∀ (w : List Token) (e e' : Expr), Derives .or w e → Derives .or w e' → e.bare = e'.bare := by
  refine ⟨?_, ?_, ?_⟩
  · -- the tokens of an expression are read, up to the follower
    intro w e derives follower more allowed
    exact (understands_of_derives stop derives rfl).reads _ (stops_of_follower allowed _ more)
  · -- what was read is an expression
    intro ts e parsed
    exact derives_of_parseTier (Nat.le_refl _) ⟨parsed, rfl⟩
  · intro w e e' derives derives'
    -- both are what the parser gives for the tokens, at whatever places they stand
    let us : Tokens := w.map fun t => ⟨t, default⟩
    have same : us.map (·.value) = w := by simp [us, Function.comp_def]
    have stops : Stops .or [⟨.eof, default⟩] := stops_of_follower (by decide) .or []
    obtain ⟨a, bare, parsed, -⟩ :=
      (understands_of_derives stop derives same).reads _ stops
    obtain ⟨a', bare', parsed', -⟩ :=
      (understands_of_derives stop derives' same).reads _ stops
    cases parsed.symm.trans parsed'
    exact bare.symm.trans bare'

theorem parseTier_exact_difference :
    let parsed := parseTier default loosest [⟨.ident "x", default⟩, ⟨.sign .minus, default⟩,
      ⟨.ident "y", default⟩, ⟨.sign .minus, default⟩, ⟨.ident "z", default⟩, ⟨.newline, default⟩]
    ∃ e', e'.bare = .binary .sub (.binary .sub (.var "x" default) (.var "y" default) default)
        (.var "z" default) default ∧
      parsed.outcome = .ok e' ∧ parsed.rest = [⟨.newline, default⟩] := by
  have name (word : String) : Derives .multiplicative [.ident word] (.var word default) :=
    .tighter (.tighter (.tighter .name))
  have difference : Derives .additive
      [.ident "x", .sign .minus, .ident "y", .sign .minus, .ident "z"]
      (.binary .sub (.binary .sub (.var "x" default) (.var "y" default) default)
        (.var "z" default) default) :=
    .binary .sub (.binary .sub (.tighter (name "x")) (name "y")) (name "z")
  exact (parseTier_exact default).1
    [⟨.ident "x", default⟩, ⟨.sign .minus, default⟩, ⟨.ident "y", default⟩,
      ⟨.sign .minus, default⟩, ⟨.ident "z", default⟩]
    _ (.tighter (.tighter (.tighter (.tighter difference)))) ⟨.newline, default⟩ [] (by decide)

end BrushScript.Syntax.Parser
