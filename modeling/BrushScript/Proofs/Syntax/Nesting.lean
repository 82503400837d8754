import BrushScript.Proofs.Syntax.Layout
import BrushScript.Proofs.Syntax.Lines
import BrushScript.Proofs.Syntax.Placement

/-!
# How the places of a program nest

In a program that was read from a script the statements lie behind one another. An expression lies
within the statement or the expression that it is a part of, behind the part before it, and no place
is empty: `Program.Nested`. `nested_programOf` says so of the program of every script, also where
there are problems in it. What carries it is that tokens in the order of the text (`Ordered`) give
nested places to what is made of them.

The parser does not know that its tokens are in order, and the lexer does not know what is made of
them. `Expr.MadeOf` stands between the two: an expression is made of tokens, each part of tokens of
its own, which are a sublist of those of the whole. A sublist of tokens in order is in order, and so
`Expr.MadeOf.nested` is an induction on how the expression is made. A place lies `On` tokens if it
begins where one of them does and ends where one does. That is enough to compare two places when the
tokens of one are in front of the tokens of the other (`Span.On.before`).

The places count bytes, so all of this is about natural numbers of any size. Lines and columns,
which have 32 bits, come along with the byte at which a place begins.
-/

namespace BrushScript.Syntax

open Syntax.Parser (Tokens)

/-! ## Places

The order and the inclusion of places look at the bytes alone.
-/

/-- A place lies within another one. -/
def Span.Within (s t : Span) : Prop := t.start ≤ s.start ∧ s.stop ≤ t.stop

/-- A place lies in front of another one. -/
def Span.Before (s t : Span) : Prop := s.stop ≤ t.start

/-- Expressions lie within a place, behind one another. -/
structure Row (s : Span) (es : List Expr) : Prop where
  within : ∀ e ∈ es, e.span.Within s
  ordered : es.Pairwise fun a b => a.span.Before b.span

/-- No place in the expression is empty, and the parts of an expression lie in a row within it. -/
inductive Expr.Nested : Expr → Prop where
  | intro {e : Expr} (nonempty : e.span.start < e.span.stop) (row : Row e.span e.parts)
      (each : ∀ part ∈ e.parts, Nested part) : Nested e

namespace Expr.Nested

variable {e : Expr}

theorem nonempty (h : e.Nested) : e.span.start < e.span.stop := by
  cases h
  assumption

theorem row (h : e.Nested) : Row e.span e.parts := by
  cases h
  assumption

theorem part (h : e.Nested) {part : Expr} (mem : part ∈ e.parts) : part.Nested := by
  cases h with
  | intro _ _ each => exact each part mem

end Expr.Nested

/-- The expressions of a statement lie in a row within it, each nested. -/
structure Stmt.Nested (s : Stmt) : Prop where
  nonempty : s.span.start < s.span.stop
  row : Row s.span s.exprs
  each : ∀ e ∈ s.exprs, e.Nested

/-- The statements of a program lie behind one another, each nested. -/
structure Program.Nested (p : Program) : Prop where
  each : ∀ s ∈ p.statements.toList, s.Nested
  ordered : p.statements.toList.Pairwise fun s t => s.span.Before t.span

/-! ## Tokens in order

Tokens are in order if each ends before the next one begins. What is made of some of them lies
between the first and the last of these.
-/

/-- Tokens that lie behind one another, none of them empty. -/
structure Ordered (w : Tokens) : Prop where
  nonempty : ∀ t ∈ w, t.span.start < t.span.stop
  ordered : w.Pairwise fun s t => s.span.Before t.span

theorem Ordered.sublist {u w : Tokens} (h : Ordered w) (sub : u.Sublist w) : Ordered u :=
  ⟨fun t mem => h.nonempty t (sub.mem mem), h.ordered.sublist sub⟩

/-- The place begins where one of the tokens does and ends where one does, and is not empty. -/
structure Span.On (w : Tokens) (s : Span) : Prop where
  nonempty : s.start < s.stop
  first : ∃ t ∈ w, s.start = t.span.start ∧ s.line = t.span.line ∧ s.column = t.span.column
  last : ∃ t ∈ w, s.stop = t.span.stop

namespace Span.On

variable {u v w : Tokens} {s s' : Span} {t : Located Token}

theorem token (ordered : Ordered w) (mem : t ∈ w) : t.span.On w :=
  ⟨ordered.nonempty t mem, ⟨t, mem, rfl, rfl, rfl⟩, ⟨t, mem, rfl⟩⟩

theorem mono (h : s.On u) (sub : u ⊆ w) : s.On w := by
  obtain ⟨nonempty, ⟨t, mem, begins⟩, ⟨t', mem', ends⟩⟩ := h
  exact ⟨nonempty, ⟨t, sub mem, begins⟩, ⟨t', sub mem', ends⟩⟩

/-- What begins in a row of tokens lies behind all that comes before them. -/
theorem before (h : s.On u) (h' : s'.On v) (apart : ∀ x ∈ u, ∀ y ∈ v, x.span.Before y.span) :
    s.Before s' := by
  obtain ⟨x, mem, ends⟩ := h.last
  obtain ⟨y, mem', begins, -⟩ := h'.first
  have between := apart x mem y mem'
  unfold Before at between ⊢
  omega

/-- What begins and ends with tokens that lie within a place lies within it. -/
theorem within (h : s.On w) (all : ∀ t ∈ w, t.span.Within s') : s.Within s' := by
  obtain ⟨x, mem, begins, -⟩ := h.first
  obtain ⟨y, mem', ends⟩ := h.last
  exact ⟨begins ▸ (all x mem).1, ends ▸ (all y mem').2⟩

/-- Two places behind one another are covered by the place from the start of the first to the end of
the second. -/
theorem merge (h : s.On u) (h' : s'.On v) (ordered : Ordered (u ++ v)) :
    (s.merge s').On (u ++ v) := by
  have apart := (List.pairwise_append.mp ordered.ordered).2.2
  have between := h.before h' apart
  have nonempty := h.nonempty
  have nonempty' := h'.nonempty
  unfold Before at between
  have start : ¬ s'.start < s.start := by omega
  obtain ⟨x, mem, begins⟩ := h.first
  obtain ⟨y, mem', ends⟩ := h'.last
  refine ⟨?_, ⟨x, List.mem_append_left v mem, ?_⟩, ⟨y, List.mem_append_right u mem', ?_⟩⟩
  · simp only [Span.merge]
    omega
  · simp only [Span.merge, if_neg start]
    rw [Nat.min_eq_left (by omega)]
    exact begins
  · simp only [Span.merge]
    rw [Nat.max_eq_right (by omega)]
    exact ends

end Span.On

theorem Span.within_merge_left (s t : Span) : s.Within (s.merge t) :=
  ⟨Nat.min_le_left .., Nat.le_max_left ..⟩

theorem Span.within_merge_right (s t : Span) : t.Within (s.merge t) :=
  ⟨Nat.min_le_right .., Nat.le_max_right ..⟩

/-- What lies between two places lies within the place that covers both. -/
theorem Span.within_merge_of_between {s m t : Span} (nonempty : s.start < s.stop)
    (nonempty' : t.start < t.stop) (h : s.Before m) (h' : m.Before t) : m.Within (s.merge t) := by
  unfold Before at h h'
  simp only [Within, merge]
  omega

/-- The place from the first of several tokens to the last covers what lies on those between. -/
theorem on_ends {a b : Located Token} {inner : Tokens}
    (ordered : Ordered (a :: (inner ++ [b]))) :
    (a.span.merge b.span).On (a :: (inner ++ [b])) ∧
      ∀ s : Span, s.On inner → s.Within (a.span.merge b.span) := by
  have ends : [a, b].Sublist (a :: (inner ++ [b])) :=
    (List.sublist_append_right inner [b]).cons_cons a
  have inOrder := ordered.sublist ends
  have first : a.span.On [a] :=
    .token (inOrder.sublist (List.sublist_append_left [a] _)) List.mem_cons_self
  have last : b.span.On [b] :=
    .token (inOrder.sublist (List.sublist_append_right [a] _)) List.mem_cons_self
  obtain ⟨behind, rest⟩ := List.pairwise_cons.mp ordered.ordered
  have front : ∀ x ∈ [a], ∀ y ∈ inner, x.span.Before y.span :=
    List.forall_mem_singleton.mpr fun y mem => behind y (List.mem_append_left _ mem)
  have back := (List.pairwise_append.mp rest).2.2
  refine ⟨(first.merge last inOrder).mono ends.subset, fun s on => ?_⟩
  exact Span.within_merge_of_between first.nonempty last.nonempty (first.before on front)
    (on.before last back)

/-! ## Expressions

An expression has the place from the first to the last of its tokens, and its parts lie within that
place because their tokens do.
-/

/-- Expressions that are each nested on tokens of their own lie behind one another if the tokens
do. -/
theorem row_of_items {w : Tokens} {items : List (Tokens × Expr)}
    (each : ∀ item ∈ items, Ordered item.1 → item.2.Nested ∧ item.2.span.On item.1)
    (ordered : Ordered w) (inside : (items.flatMap Prod.fst).Sublist w) :
    (items.map Prod.snd).Pairwise (fun a b => a.span.Before b.span) ∧
      ∀ e ∈ items.map Prod.snd, e.Nested ∧ e.span.On w := by
  have among (item : Tokens × Expr) (mem : item ∈ items) : item.1.Sublist w :=
    (List.sublist_flatten_of_mem (List.mem_map_of_mem mem)).trans inside
  have nested (item : Tokens × Expr) (mem : item ∈ items) :
      item.2.Nested ∧ item.2.span.On item.1 := each item mem (ordered.sublist (among item mem))
  constructor
  · have apart := (List.pairwise_flatMap.mp (ordered.sublist inside).ordered).2
    rw [List.pairwise_map]
    refine apart.imp_of_mem fun {x y} mem mem' between => ?_
    exact (nested x mem).2.before (nested y mem').2 between
  · intro e mem
    obtain ⟨item, mem', rfl⟩ := List.mem_map.mp mem
    exact ⟨(nested item mem').1, (nested item mem').2.mono (among item mem').subset⟩

/-- An expression that is made of tokens in order is nested and lies where they do. -/
theorem Expr.MadeOf.nested {w : Tokens} {e : Expr} (h : e.MadeOf w) (ordered : Ordered w) :
    e.Nested ∧ e.span.On w := by
  -- on what the expression is made of, with all that its tokens are in order
  induction h with
  | @leaf w e t leaf place among =>
    -- a leaf lies on its one token
    have on : e.span.On w := place ▸ .token ordered among
    refine ⟨.intro on.nonempty ⟨?_, ?_⟩ ?_, on⟩ <;> rw [leaf]
    · exact nofun
    · exact List.Pairwise.nil
    · exact nofun
  | @unary w u t op operand _ among ih =>
    -- the operand lies behind the sign
    have inOrder := ordered.sublist among
    obtain ⟨nested, on⟩ := ih (inOrder.sublist (List.sublist_cons_self t u))
    have sign : t.span.On [t] :=
      .token (inOrder.sublist (List.singleton_sublist.mpr List.mem_cons_self)) List.mem_cons_self
    have whole := sign.merge on inOrder
    refine ⟨.intro whole.nonempty ⟨?_, List.pairwise_singleton ..⟩ ?_, whole.mono among.subset⟩
    · exact List.forall_mem_singleton.mpr (Span.within_merge_right ..)
    · exact List.forall_mem_singleton.mpr nested
  | @binary w u v op left right _ _ among ihl ihr =>
    -- the operands lie behind one another, and the place covers both
    have inOrder := ordered.sublist among
    obtain ⟨nested, on⟩ := ihl (inOrder.sublist (List.sublist_append_left u v))
    obtain ⟨nested', on'⟩ := ihr (inOrder.sublist (List.sublist_append_right u v))
    have apart := (List.pairwise_append.mp inOrder.ordered).2.2
    have whole := on.merge on' inOrder
    refine ⟨.intro whole.nonempty ⟨?_, ?_⟩ ?_, whole.mono among.subset⟩
    · refine List.forall_mem_cons.mpr ⟨Span.within_merge_left .., ?_⟩
      exact List.forall_mem_singleton.mpr (Span.within_merge_right ..)
    · exact List.pairwise_pair.mpr (on.before on' apart)
    · exact List.forall_mem_cons.mpr ⟨nested, List.forall_mem_singleton.mpr nested'⟩
  | @call w name close b items _ among ih =>
    -- the arguments lie between the name and the closing parenthesis
    have inOrder := ordered.sublist among
    have inside := (List.sublist_append_left (items.flatMap Prod.fst) [close]).cons name
    obtain ⟨apart, arguments⟩ := row_of_items ih (inOrder.sublist inside) (List.Sublist.refl _)
    obtain ⟨whole, between⟩ := on_ends inOrder
    exact ⟨.intro whole.nonempty ⟨fun e mem => between _ (arguments e mem).2, apart⟩
      fun e mem => (arguments e mem).1, whole.mono among.subset⟩

/-! ## Statements

A statement has the place of its whole line, so all its expressions lie within it, whatever else is
on the line: the keyword, the brackets of a jump, the commas.
-/

namespace Parser

/-- The tokens of a line lie behind one another if all tokens up to its end do. -/
theorem ordered_of_line {l : Line} (ordered : l.all.Pairwise Lexer.Precedes) :
    Ordered l.tokens := by
  obtain ⟨inside, -, ends⟩ := List.pairwise_append.mp ordered
  exact ⟨fun t mem => (ends t mem _ List.mem_cons_self).1, inside.imp And.right⟩

/-- What parses the action of a line does not read past its end. -/
theorem exists_rest_parseAction (stop : Span) (l : Line) :
    ∃ l' : Line, (parseAction stop l.all).rest = l'.all ∧ l'.terminator = l.terminator := by
  have along := (l.alone []).alongside_append l.inside
  obtain ⟨l', same, ends⟩ := (Transport.lockstep_parseAction along stop stop).rest.exists_line
  rw [show (l.alone []).behind₁ = [] from rfl, List.append_nil] at same
  exact ⟨l', same, ends⟩

theorem line_append {ts : Tokens} {e : Located Token} (inside : ∀ t ∈ ts, ¬ t.EndsLine)
    (ends : e.EndsLine) : line (ts ++ [e]) = ts := by
  induction ts with
  | nil => exact line_of_endsLine ends []
  | cons t ts ih =>
    obtain ⟨here, later⟩ := List.forall_mem_cons.mp inside
    rw [List.cons_append, line_cons here, ih later]

theorem lineSpan_all {l : Line} {t : Located Token} {ts : Tokens} (tokens : l.tokens = t :: ts)
    (stop : Span) :
    lineSpan stop l.all = t.span.merge ((t :: ts).getLast (List.cons_ne_nil _ _)).span := by
  obtain ⟨tokens, e, inside, ends⟩ := l
  subst tokens
  obtain ⟨here, later⟩ := List.forall_mem_cons.mp inside
  have whole := lineSpan_cons here stop (ts ++ [e])
  simp only [line_append later ends] at whole
  exact whole

/-- The place of a statement goes from the first token of its line to the last one, so all of them
are within it. -/
theorem lineSpan_on {l : Line} (nonempty : l.tokens ≠ []) (ordered : Ordered l.tokens)
    (stop : Span) :
    (lineSpan stop l.all).On l.tokens ∧ ∀ t ∈ l.tokens, t.span.Within (lineSpan stop l.all) := by
  obtain ⟨t, ts, tokens⟩ := List.exists_cons_of_ne_nil nonempty
  rw [lineSpan_all tokens]
  rw [tokens] at ordered ⊢
  rcases List.eq_nil_or_concat ts with rfl | ⟨init, last, rfl⟩
  · -- a line of one token
    rw [List.getLast_singleton, Span.merge_self]
    refine ⟨.token ordered List.mem_cons_self, List.forall_mem_singleton.mpr ?_⟩
    exact ⟨Nat.le_refl _, Nat.le_refl _⟩
  · -- a line of at least two
    simp only [List.concat_eq_append] at ordered ⊢
    have ends : (t :: (init ++ [last])).getLast (List.cons_ne_nil _ _) = last := by simp
    rw [ends]
    obtain ⟨on, between⟩ := on_ends ordered
    refine ⟨on, List.forall_mem_cons.mpr ⟨Span.within_merge_left .., fun x mem => ?_⟩⟩
    rcases List.mem_append.mp mem with inner | same
    · have inOrder := ordered.sublist ((List.sublist_append_left init [last]).cons t)
      exact between _ (.token inOrder inner)
    · rw [List.mem_singleton.mp same]
      exact Span.within_merge_right ..

theorem Line.tokens_eq_nil_of_endsLine {l : Line} (ended : endsLine l.all = true) :
    l.tokens = [] := by
  obtain ⟨tokens, e, inside, ends⟩ := l
  cases tokens with
  | nil => rfl
  | cons t ts => exact absurd (endsLine_iff.mp ended) (inside t List.mem_cons_self)

/-- The expressions of a statement that a line gives are made of the tokens of the line. -/
theorem rowOf_of_outcome {l : Line} {s : Stmt} (outcome : l.outcome = .ok s) :
    s.span = lineSpan default l.all ∧ RowOf l.tokens s.exprs := by
  have parsed : (parseStmt default l.all).Yields s (parseStmt default l.all).rest :=
    ⟨outcome, rfl⟩
  rw [parseStmt, Parsed.yields_andThen_iff] at parsed
  obtain ⟨action, rest, -, first, more⟩ := parsed
  split at more
  · next ended =>
    obtain ⟨rfl, -⟩ := Parsed.yields_accept_iff.mp more
    obtain ⟨w, same, row⟩ := rowOf_of_parseAction first (lineSpan default l.all)
    -- the action has used up the whole line
    obtain rfl : l.tokens = w := by
      obtain ⟨l', left, terminator⟩ := exists_rest_parseAction default l
      rw [first.2] at left
      subst left
      rw [Line.all, Line.all, Line.tokens_eq_nil_of_endsLine ended] at same
      exact (List.append_inj' same rfl).1
    exact ⟨rfl, row⟩
  · exact absurd more Parsed.not_yields_reject

/-- A statement that a line gives is nested and lies where the tokens of the line do. -/
theorem nested_of_outcome {l : Line} (nonempty : l.tokens ≠ [])
    (ordered : l.all.Pairwise Lexer.Precedes) {s : Stmt} (outcome : l.outcome = .ok s) :
    s.Nested ∧ s.span.On l.tokens := by
  have inOrder := ordered_of_line ordered
  obtain ⟨place, items, parts, made, inside⟩ := rowOf_of_outcome outcome
  obtain ⟨apart, each⟩ := row_of_items (fun item mem => (made item mem).nested) inOrder inside
  obtain ⟨on, covers⟩ := lineSpan_on nonempty inOrder default
  rw [← place] at on covers
  rw [parts] at apart each
  refine ⟨⟨on.nonempty, ⟨fun e mem => ?_, apart⟩, fun e mem => (each e mem).1⟩, on⟩
  exact (each e mem).2.within covers

/-! ## Programs

A line that has a problem gives no statement, and an empty line gives none either. What the others
give lies in the order of the lines.
-/

/-- The statements that lines give lie behind one another as the lines do. -/
theorem nested_of_outcomes {ls : List Line}
    (ordered : (ls.flatMap Line.all).Pairwise Lexer.Precedes) :
    (∀ s ∈ (outcomes ls).filterMap Except.toOption,
        s.Nested ∧ s.span.On (ls.flatMap Line.all)) ∧
      ((outcomes ls).filterMap Except.toOption).Pairwise fun s t => s.span.Before t.span := by
  induction ls with
  | nil => exact ⟨nofun, .nil⟩
  | cons l ls ih =>
    obtain ⟨here, later, apart⟩ := List.pairwise_append.mp ordered
    obtain ⟨each, behind⟩ := ih later
    have each' : ∀ s ∈ (outcomes ls).filterMap Except.toOption,
        s.Nested ∧ s.span.On ((l :: ls).flatMap Line.all) := fun s mem =>
      ⟨(each s mem).1, (each s mem).2.mono (List.subset_append_right ..)⟩
    -- an empty line, a line with a problem, a line with a statement
    by_cases empty : l.tokens = []
    · rw [outcomes_cons_of_empty empty]
      exact ⟨each', behind⟩
    rw [outcomes_cons empty, List.filterMap_cons]
    cases outcome : l.outcome with
    | error problem => exact ⟨each', behind⟩
    | ok s =>
      obtain ⟨nested, on⟩ := nested_of_outcome empty here outcome
      have among : l.tokens ⊆ l.all := List.subset_append_left ..
      refine ⟨List.forall_mem_cons.mpr ⟨⟨nested, on.mono ?_⟩, each'⟩,
        List.pairwise_cons.mpr ⟨fun t mem => ?_, behind⟩⟩
      · exact List.Subset.trans among (List.subset_append_left ..)
      · exact on.before (each t mem).2 fun x mem y mem' => (apart x (among mem) y mem').2

end Parser

/-- The program of a script, whether or not there are problems in it. -/
def programOf (source : String) : Program := (Parser.parse (Lexer.lex source).tokens).program

/-- The program of every script nests. -/
theorem nested_programOf (source : String) : (programOf source).Nested := by
  have ends := Lexer.endsInEof_lex source
  have ordered := (Lexer.lex_laidOut source).ordered
  obtain ⟨t, rest, first⟩ := Parser.exists_first ends
  rw [programOf, Parser.parse_of_first ends first]
  have none : Program.Nested ⟨#[]⟩ := ⟨nofun, .nil⟩
  split
  · exact none
  split
  · rw [← Parser.flatMap_lines ends] at ordered
    obtain ⟨each, behind⟩ := Parser.nested_of_outcomes ordered
    exact ⟨fun s mem => (each s mem).1, behind⟩
  · exact none

end BrushScript.Syntax
