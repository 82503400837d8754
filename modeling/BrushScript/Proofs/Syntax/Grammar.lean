import BrushScript.Integer
import BrushScript.Syntax.Program
import BrushScript.Syntax.Token

/-!
# The grammar of expressions

What an expression is, without saying how to read one. From loose to tight the levels are

    or ::= or `||` and | and
    and ::= and `&&` equality | equality
    equality ::= relational (`==` | `!=`) relational | relational
    relational ::= additive (`<` | `>` | `<=` | `>=`) additive | additive
    additive ::= additive (`+` | `-`) multiplicative | multiplicative
    multiplicative ::= multiplicative (`*` | `/` | `%`) power | power
    power ::= unary `**` power | unary
    unary ::= (`-` | `!`) unary | primary
    primary ::= number | string | name | query ( arguments ) | ( or )

with as many arguments, each an `or`, as the query has parameters, and a comma between two of them.
The binary levels have one rule in common (`Derives.binary`): a level says which of its operands may
be of the same level again.

`Derives` speaks about the kinds of tokens and leaves the spans of the expression open. A number is
a literal of 64 bits; what that means for the digits of a script is `Integer.decimal?_digits_iff`.
-/

namespace BrushScript

/-- Digits write a 64-bit integer exactly if their decimal value is one. -/
theorem Integer.decimal?_digits_iff {digits : String} (nonempty : digits.toList ≠ [])
    (each : digits.toList.all Char.isDigit = true) {n : Int64} :
    decimal? digits = some n ↔
      n.toInt = (digits.toList.foldl (fun n c => 10 * n + (c.toNat - '0'.toNat)) 0 : Nat) := by
  have value : ofDigits? digits.toList =
      some (digits.toList.foldl (fun n c => 10 * n + (c.toNat - '0'.toNat)) 0) :=
    if_pos ⟨nonempty, each⟩
  have plain : decimal? digits = (ofDigits? digits.toList).bind fun n => ofInt? n := by
    unfold decimal? natural?
    split
    · next rest sign =>
      rw [sign] at each
      cases each
    · split
      · next rest sign =>
        rw [sign] at each
        cases each
      · rfl
  rw [plain, value]
  exact ofInt?_eq_some_iff

namespace Syntax

/-- The levels of the grammar, from loose to tight. -/
inductive Level where
  | or
  | and
  | equality
  | relational
  | additive
  | multiplicative
  | power
  | unary
  | primary
  deriving DecidableEq, Repr

/-- Which operand of an operator may be of the same level as the whole. -/
inductive Associativity where
  | left
  | right
  | neither

namespace Level

/-- The next tighter level. -/
def tighter : Level → Level
  | or => and
  | and => equality
  | equality => relational
  | relational => additive
  | additive => multiplicative
  | multiplicative => power
  | power => unary
  | unary | primary => primary

/-- How the operators of a level group. -/
def associativity : Level → Associativity
  | or | and | additive | multiplicative => .left
  | power => .right
  | equality | relational | unary | primary => .neither

/-- The level of a left operand. -/
def left (l : Level) : Level :=
  match l.associativity with
  | .left => l
  | .right | .neither => l.tighter

/-- The level of a right operand. -/
def right (l : Level) : Level :=
  match l.associativity with
  | .right => l
  | .left | .neither => l.tighter

/-- The sign stands for a binary operator of the level. -/
inductive Joins : Level → Sign → BinaryOp → Prop where
  | or : Joins .or .or .or
  | and : Joins .and .and .and
  | eq : Joins .equality .equal .eq
  | ne : Joins .equality .notEqual .ne
  | lt : Joins .relational .less .lt
  | gt : Joins .relational .greater .gt
  | le : Joins .relational .lessEqual .le
  | ge : Joins .relational .greaterEqual .ge
  | add : Joins .additive .plus .add
  | sub : Joins .additive .minus .sub
  | mul : Joins .multiplicative .star .mul
  | div : Joins .multiplicative .slash .div
  | mod : Joins .multiplicative .percent .mod
  | pow : Joins .power .starStar .pow

theorem Joins.level_eq {l l' : Level} {s : Sign} {op op' : BinaryOp} (h : l.Joins s op)
    (h' : l'.Joins s op') : l = l' := by
  cases h <;> cases h' <;> rfl

end Level

/-- The sign stands for an operator before its operand. -/
inductive Opens : Sign → UnaryOp → Prop where
  | neg : Opens .minus .neg
  | not : Opens .bang .not

/-- Token lists in a row, with a comma between two of them. -/
def commaSeparated (items : List (List Token)) : List Token :=
  [Token.sign .comma].intercalate items

/-- The tokens are an expression of the level. The items of a call are its arguments, each with its
tokens. -/
inductive Derives : Level → List Token → Expr → Prop where
  | tighter {l : Level} {w : List Token} {e : Expr} (inner : Derives l.tighter w e) : Derives l w e
  | binary {l : Level} {s : Sign} {op : BinaryOp} {u w : List Token} {left right : Expr}
      {span : Span} (operator : l.Joins s op) (first : Derives l.left u left)
      (second : Derives l.right w right) :
      Derives l (u ++ .sign s :: w) (.binary op left right span)
  | unary {s : Sign} {op : UnaryOp} {w : List Token} {operand : Expr} {span : Span}
      (operator : Opens s op) (inner : Derives .unary w operand) :
      Derives .unary (.sign s :: w) (.unary op operand span)
  | number {digits : String} {n : Int64} {span : Span}
      (decimal : Integer.decimal? digits = some n) :
      Derives .primary [.number digits] (.number n span)
  | string {body : String} {span : Span} : Derives .primary [.string body] (.string body span)
  | name {name : String} {span : Span} : Derives .primary [.ident name] (.var name span)
  | call {q : Query} {items : List (List Token × Expr)} {span : Span}
      (count : items.length = q.params.length)
      (each : ∀ item ∈ items, Derives .or item.1 item.2) :
      Derives .primary
        (.builtin (.query q) :: .sign .leftParen ::
          (commaSeparated (items.map Prod.fst) ++ [.sign .rightParen]))
        (.call (.query q) (items.map Prod.snd) span)
  | parens {w : List Token} {e : Expr} (inner : Derives .or w e) :
      Derives .primary (.sign .leftParen :: (w ++ [.sign .rightParen])) e

theorem Derives.of_left {l : Level} {w : List Token} {e : Expr} (h : Derives l.left w e) :
    Derives l w e := by
  unfold Level.left at h
  split at h
  · exact h
  · exact .tighter h
  · exact .tighter h

/-- An expression does not begin with a closing parenthesis. -/
theorem Derives.exists_head {l : Level} {w : List Token} {e : Expr} (h : Derives l w e) :
    ∃ t u, w = t :: u ∧ t ≠ .sign .rightParen := by
  induction h with
  | tighter _ ih => exact ih
  | binary _ _ _ ih _ =>
    obtain ⟨t, u, rfl, other⟩ := ih
    exact ⟨t, _, List.cons_append, other⟩
  | unary opens =>
    refine ⟨_, _, rfl, ?_⟩
    cases opens <;> decide
  | number | string | name | call | parens => exact ⟨_, _, rfl, nofun⟩

/-! ## Lists of arguments

The arguments of a call are items with commas between them. An item is paired with its tokens, so
that the tokens of the list are the items' own with the commas put in.
-/

/-- The tokens are expressions with commas between them, or none. -/
def DerivesList (w : List Token) (args : List Expr) : Prop :=
  ∃ items : List (List Token × Expr), commaSeparated (items.map Prod.fst) = w ∧
    items.map Prod.snd = args ∧ ∀ item ∈ items, Derives .or item.1 item.2

theorem commaSeparated_cons (u v : List Token) (rest : List (List Token)) :
    commaSeparated (u :: v :: rest) = u ++ .sign .comma :: commaSeparated (v :: rest) := by
  simp [commaSeparated, List.intercalate]

namespace DerivesList

theorem nil : DerivesList [] [] := ⟨[], rfl, rfl, nofun⟩

theorem single {w : List Token} {e : Expr} (h : Derives .or w e) : DerivesList w [e] := by
  refine ⟨[(w, e)], ?_, rfl, ?_⟩
  · simp [commaSeparated, List.intercalate]
  · intro item mem
    cases List.mem_singleton.mp mem
    exact h

theorem cons {u w : List Token} {e e' : Expr} {args : List Expr} (first : Derives .or u e)
    (rest : DerivesList w (e' :: args)) :
    DerivesList (u ++ .sign .comma :: w) (e :: e' :: args) := by
  obtain ⟨items, separated, same, each⟩ := rest
  match items, same with
  | (v, _) :: items, rfl =>
    refine ⟨(u, e) :: (v, _) :: items, ?_, rfl, ?_⟩
    · rw [← separated]
      exact commaSeparated_cons ..
    · intro item mem
      rcases List.mem_cons.mp mem with rfl | mem
      · exact first
      · exact each item mem

end DerivesList

end Syntax
end BrushScript
