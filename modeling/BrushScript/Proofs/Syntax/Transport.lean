import BrushScript.Proofs.Syntax.Relocate
import BrushScript.Syntax.Parser

/-!
# A line is parsed in the same way wherever it stands

A `Transport` takes the tokens in front of the end of one line to the front of the end of another,
and changes their places on the way. On lists of tokens that go alongside each other in this way
every parser does the same: the outcomes are the same up to the places, and what is left goes
alongside again (`Transport.Lockstep`). So no parser reads past the end of a line, and none depends
on what is behind it.

There is one lemma for each way of putting parsers together and one for each parser. Each parser
looks at the first token that is left and at nothing else, so its lemma has two cases: both lines
have ended, or both have the same token in front. The ends need not be of the same kind, as the last
line of a script has another one than the same line further up; therefore no parser may treat the
two kinds in different ways, and `Located.EndsLine` is all that the lemmas know of an end.

The place of a problem at the end of a line is the place of the end itself. This is why a transport
has to move that one too (`span_end`), and why the place `stop`, which a parser takes if there are
no tokens at all, plays no part.
-/

namespace BrushScript.Syntax

/-- The token ends a line. -/
def Located.EndsLine (t : Located Token) : Prop := t.value = .newline ∨ t.value = .eof

instance (t : Located Token) : Decidable t.EndsLine := inferInstanceAs (Decidable (_ ∨ _))

namespace Parser

/-- An outcome with its value changed, or its problem at another place. -/
def relocated {α β : Type} (f : Span → Span) (g : α → β) :
    Except (Located ParseProblem) α → Except (Located ParseProblem) β
  | .ok a => .ok (g a)
  | .error problem => .error (problem.relocate f)

/-- The ends of two lines with what is behind them, and a way to move places that respects what two
places cover together. -/
structure Transport where
  move : Span → Span
  move_merge : ∀ s t : Span, move (s.merge t) = (move s).merge (move t)
  end₁ : Located Token
  end₂ : Located Token
  behind₁ : Tokens
  behind₂ : Tokens
  ends₁ : end₁.EndsLine
  ends₂ : end₂.EndsLine
  span_end : end₂.span = move end₁.span

namespace Transport

/-- The same tokens at the places they are moved to, up to the ends of the lines. -/
inductive Alongside (T : Transport) : Tokens → Tokens → Prop where
  | ended : T.Alongside (T.end₁ :: T.behind₁) (T.end₂ :: T.behind₂)
  | step {t : Located Token} {ts us : Tokens} (inside : ¬ t.EndsLine)
      (along : T.Alongside ts us) : T.Alongside (t :: ts) (t.relocate T.move :: us)

/-- Two parsers came to the same up to places, and what they left goes alongside. -/
structure Lockstep {α β : Type} (T : Transport) (g : α → β) {ts us : Tokens} (p : Parsed α ts)
    (q : Parsed β us) : Prop where
  outcome_eq : q.outcome = relocated T.move g p.outcome
  rest : T.Alongside p.rest q.rest

variable {T : Transport} {ts us : Tokens}

/-! ## Putting parsers together -/

namespace Lockstep

variable {α α' β β' : Type} {g : α → α'} {g' : β → β'}

theorem accept (along : T.Alongside ts us) {a : α} {a' : α'} (same : a' = g a) :
    T.Lockstep g (.accept a ts) (.accept a' us) :=
  ⟨congrArg Except.ok same, along⟩

theorem reject (along : T.Alongside ts us) (problem : ParseProblem) (stop stop' : Span) :
    T.Lockstep g (.reject problem stop ts) (.reject problem stop' us) := by
  refine ⟨?_, along⟩
  -- where the line has ended, the problem is told at its end
  cases along with
  | ended =>
    show Except.error (Located.mk problem T.end₂.span) =
      Except.error (Located.mk problem (T.move T.end₁.span))
    rw [T.span_end]
  | step => rfl

theorem error (along : T.Alongside ts us) {e e' : Located ParseProblem}
    (same : e' = e.relocate T.move) {ts₀ us₀ : Tokens} {suffix : ts <:+ ts₀}
    {suffix' : us <:+ us₀} :
    T.Lockstep g (⟨.error e, ts, suffix⟩ : Parsed α ts₀) ⟨.error e', us, suffix'⟩ :=
  ⟨congrArg Except.error same, along⟩

variable {p : Parsed α ts} {q : Parsed α' us}

theorem after (h : T.Lockstep g p q) {t t' : Located Token} :
    T.Lockstep g (p.after t) (q.after t') :=
  ⟨h.outcome_eq, h.rest⟩

theorem map (h : T.Lockstep g p q) {k : α → β} {k' : α' → β'} (same : ∀ a, k' (g a) = g' (k a)) :
    T.Lockstep g' (p.map k) (q.map k') := by
  refine ⟨?_, h.rest⟩
  show q.outcome.map k' = relocated T.move g' (p.outcome.map k)
  rw [h.outcome_eq]
  cases p.outcome with
  | ok a => exact congrArg Except.ok (same a)
  | error problem => rfl

theorem andThen (h : T.Lockstep g p q) {k : α → (mid : Tokens) → mid <:+ ts → Parsed β mid}
    {k' : α' → (mid : Tokens) → mid <:+ us → Parsed β' mid}
    (next : ∀ a mid mid' suffix suffix', T.Alongside mid mid' →
      T.Lockstep g' (k a mid suffix) (k' (g a) mid' suffix')) :
    T.Lockstep g' (p.andThen k) (q.andThen k') := by
  obtain ⟨outcome, left, suffix⟩ := p
  obtain ⟨outcome', left', suffix'⟩ := q
  obtain ⟨same, along⟩ := h
  cases same
  cases outcome with
  | ok a =>
    obtain ⟨same, along⟩ := next a left left' suffix suffix' along
    exact ⟨same, along⟩
  | error problem => exact ⟨rfl, along⟩

end Lockstep

end Transport

/-! ## Ends of lines

What the parsers make of the end of a line is the same for both kinds of ends.
-/

theorem endsLine_iff {t : Located Token} {rest : Tokens} :
    endsLine (t :: rest) = true ↔ t.EndsLine := by
  rw [endsLine, Bool.or_eq_true, decide_eq_true_iff, decide_eq_true_iff]
  exact Iff.rfl

section

variable {t : Located Token} (ends : t.EndsLine)

include ends

theorem operatorAt?_of_endsLine (tier : Nat) : operatorAt? tier t.value = none := by
  unfold operatorAt?
  rcases ends with kind | kind
  · rw [kind]
    split <;> first | rfl | cases ‹_›
  · rw [kind]
    split <;> first | rfl | cases ‹_›

theorem unaryOperator?_of_endsLine : unaryOperator? t.value = none := by
  rcases ends with kind | kind
  · rw [kind]
    rfl
  · rw [kind]
    rfl

theorem parseLabel_of_endsLine (stop : Span) (rest : Tokens) :
    parseLabel stop (t :: rest) = .reject .label stop (t :: rest) := by
  obtain ⟨value, span⟩ := t
  rcases ends with kind | kind <;> cases kind <;> rfl

theorem parseNamed_of_endsLine (stop : Span) (name : Located Token) (label : String)
    (rest : Tokens) :
    parseNamed stop name label (t :: rest) =
      (Parsed.accept (.label label) (t :: rest)).after name := by
  obtain ⟨value, span⟩ := t
  rcases ends with kind | kind <;> cases kind <;> rfl

theorem ne_sign_of_endsLine (s : Sign) : t.value ≠ .sign s := by
  rcases ends with kind | kind
  · rw [kind]
    exact nofun
  · rw [kind]
    exact nofun

end

/-- A name in front of anything else than an assignment or the end of the line. -/
theorem parseNamed_of_other {t : Located Token} (inside : ¬ t.EndsLine)
    (other : t.value ≠ .sign .assign) (stop : Span) (name : Located Token) (label : String)
    (rest : Tokens) :
    parseNamed stop name label (t :: rest) = .reject .statement stop (name :: t :: rest) := by
  obtain ⟨value, span⟩ := t
  have rejects : (if endsLine (⟨value, span⟩ :: rest) then
        (Parsed.accept (Action.label label) (⟨value, span⟩ :: rest)).after name
      else .reject .statement stop (name :: ⟨value, span⟩ :: rest)) =
      .reject .statement stop (name :: ⟨value, span⟩ :: rest) :=
    if_neg (mt endsLine_iff.mp inside)
  cases value with
  | sign s =>
    cases s with
    | assign => exact absurd rfl other
    | _ => exact rejects
  | _ => exact rejects

/-- The tokens in front of the end of the line. -/
def line (ts : Tokens) : Tokens := ts.takeWhile fun t => !endsLine [t]

theorem line_of_endsLine {t : Located Token} (ends : t.EndsLine) (rest : Tokens) :
    line (t :: rest) = [] := by
  rw [line, List.takeWhile_cons, endsLine_iff.mpr ends]
  rfl

theorem line_cons {t : Located Token} (inside : ¬ t.EndsLine) (rest : Tokens) :
    line (t :: rest) = t :: line rest := by
  rw [line, List.takeWhile_cons, Bool.eq_false_iff.mpr (mt endsLine_iff.mp inside)]
  rfl

theorem lineSpan_cons {t : Located Token} (inside : ¬ t.EndsLine) (stop : Span) (rest : Tokens) :
    lineSpan stop (t :: rest) =
      t.span.merge ((t :: line rest).getLast (List.cons_ne_nil _ _)).span := by
  have whole := line_cons inside rest
  unfold line at whole
  unfold lineSpan
  -- there is something on the line, so the first of the two cases does not occur
  split
  · next none => cases none.symm.trans whole
  · next t' rest' some =>
    cases some.symm.trans whole
    rfl

/-! ## Expressions

The recursion is that of the parsers, on the first of the two lists.
-/

namespace Transport

theorem lockstep_expect (T : Transport) {ts us : Tokens} (along : T.Alongside ts us) (s : Sign)
    (problem : ParseProblem) (stop stop' : Span) :
    T.Lockstep T.move (expect s problem stop ts) (expect s problem stop' us) := by
  cases along with
  | ended =>
    rw [expect, expect, if_neg (ne_sign_of_endsLine T.ends₁ s),
      if_neg (ne_sign_of_endsLine T.ends₂ s)]
    exact .reject .ended ..
  | @step t ts us inside rest =>
    rw [expect, expect]
    show T.Lockstep _ _ (if t.value = _ then _ else _)
    split
    · -- the sign is there
      exact .after (.accept rest rfl)
    · -- another token
      exact .reject (.step inside rest) ..

theorem relocate_join (T : Transport) (op : BinaryOp) (left right : Expr) :
    (join op left right).relocate T.move =
      join op (left.relocate T.move) (right.relocate T.move) := by
  simp only [join, Expr.relocate, Expr.span_relocate, T.move_merge]

mutual

theorem lockstep_parseTier (T : Transport) (stop stop' : Span) (tier : Nat) {ts us : Tokens}
    (along : T.Alongside ts us) :
    T.Lockstep (Expr.relocate T.move) (parseTier stop tier ts) (parseTier stop' tier us) := by
  match tier with
  | 0 =>
    rw [parseTier, parseTier]
    exact T.lockstep_parsePower stop stop' along
  | tier + 1 =>
    rw [parseTier, parseTier]
    refine (T.lockstep_parseTier stop stop' tier along).andThen ?_
    intro left mid mid' suffix _ along
    exact T.lockstep_parseTail stop stop' tier left along
termination_by (ts.length, tier + 3)
decreasing_by
  · exact descends List.suffix_rfl (by omega)
  · exact descends List.suffix_rfl (by omega)
  · exact descends suffix (by omega)

theorem lockstep_parseTail (T : Transport) (stop stop' : Span) (tier : Nat) (left : Expr)
    {ts us : Tokens} (along : T.Alongside ts us) :
    T.Lockstep (Expr.relocate T.move) (parseTail stop tier left ts)
      (parseTail stop' tier (left.relocate T.move) us) := by
  match ts, us, along with
  | _, _, .ended =>
    rw [parseTail, parseTail, operatorAt?_of_endsLine T.ends₁, operatorAt?_of_endsLine T.ends₂]
    exact .accept .ended rfl
  | _, _, @Alongside.step _ t ts us inside rest =>
    rw [parseTail, parseTail]
    -- a token that was moved is the same token, so both loops decide alike
    show T.Lockstep _ _ (match operatorAt? tier t.value with | none => _ | some op => _)
    cases operatorAt? tier t.value with
    | none => exact .accept (.step inside rest) rfl
    | some op =>
      refine .after ((T.lockstep_parseTier stop stop' tier rest).andThen ?_)
      intro right mid mid' suffix _ along
      rw [← T.relocate_join]
      split
      · exact T.lockstep_parseTail stop stop' tier (join op left right) along
      · exact .accept along rfl
termination_by (ts.length, 0)
decreasing_by
  · exact Prod.Lex.left _ _ (by simp)
  · exact Prod.Lex.left _ _ (Nat.lt_succ_of_le suffix.length_le)

theorem lockstep_parsePower (T : Transport) (stop stop' : Span) {ts us : Tokens}
    (along : T.Alongside ts us) :
    T.Lockstep (Expr.relocate T.move) (parsePower stop ts) (parsePower stop' us) := by
  rw [parsePower, parsePower]
  refine (T.lockstep_parseUnary stop stop' along).andThen ?_
  intro base mid mid' suffix suffix' along
  cases along with
  | ended =>
    dsimp only
    rw [if_neg (ne_sign_of_endsLine T.ends₁ _), if_neg (ne_sign_of_endsLine T.ends₂ _)]
    exact .accept .ended rfl
  | @step t mid mid' inside rest =>
    have along : T.Alongside (t :: mid) (t.relocate T.move :: mid') := .step inside rest
    -- a token that was moved is the same token, so both parsers decide alike
    show T.Lockstep _ (if t.value = _ then _ else _) (if t.value = _ then _ else _)
    split
    · -- a power, so the exponent comes behind it
      refine .after ((T.lockstep_parsePower stop stop' rest).map fun exponent => ?_)
      exact (T.relocate_join .pow base exponent).symm
    · -- any other token is left for the next parser
      exact .accept along rfl
termination_by (ts.length, 2)
decreasing_by
  · exact descends List.suffix_rfl (by decide)
  · exact Prod.Lex.left _ _ suffix.length_le

theorem lockstep_parseUnary (T : Transport) (stop stop' : Span) {ts us : Tokens}
    (along : T.Alongside ts us) :
    T.Lockstep (Expr.relocate T.move) (parseUnary stop ts) (parseUnary stop' us) := by
  match ts, us, along with
  | _, _, .ended =>
    rw [parseUnary, parseUnary, unaryOperator?_of_endsLine T.ends₁,
      unaryOperator?_of_endsLine T.ends₂]
    exact T.lockstep_parsePrimary stop stop' .ended
  | _, _, @Alongside.step _ t ts us inside rest =>
    rw [parseUnary, parseUnary]
    -- a sign in front, or none
    show T.Lockstep _ _ (match unaryOperator? t.value with | none => _ | some op => _)
    cases unaryOperator? t.value with
    | none => exact T.lockstep_parsePrimary stop stop' (.step inside rest)
    | some op =>
      refine .after ((T.lockstep_parseUnary stop stop' rest).map fun operand => ?_)
      simp only [Expr.relocate, Expr.span_relocate, Located.relocate, T.move_merge]
termination_by (ts.length, 1)
decreasing_by
  · exact descends List.suffix_rfl (by decide)
  · exact descends List.suffix_rfl (by decide)
  · exact Prod.Lex.left _ _ (by simp)

theorem lockstep_parsePrimary (T : Transport) (stop stop' : Span) {ts us : Tokens}
    (along : T.Alongside ts us) :
    T.Lockstep (Expr.relocate T.move) (parsePrimary stop ts) (parsePrimary stop' us) := by
  match ts, us, along with
  | _, _, .ended =>
    rw [parsePrimary, parsePrimary]
    rcases T.ends₁ with kind | kind <;> rcases T.ends₂ with kind' | kind' <;>
      rw [kind, kind'] <;> exact .reject .ended ..
  | _, _, @Alongside.step _ t ts us inside rest =>
    obtain ⟨value, span⟩ := t
    rw [parsePrimary, parsePrimary]
    cases value with
    | number text =>
      dsimp only [Located.relocate]
      cases Integer.decimal? text with
      | some n => exact .after (.accept rest rfl)
      | none => exact .error rest rfl
    | string body => exact .after (.accept rest rfl)
    | ident name => exact .after (.accept rest rfl)
    | builtin b =>
      cases b with
      | command c => exact .reject (.step inside rest) ..
      | query q =>
        refine .after ((T.lockstep_parseArguments stop stop' (.query q) rest).map ?_)
        rintro ⟨args, close⟩
        simp only [Prod.map, Expr.relocate, Expr.relocateAll_eq_map, Located.relocate,
          T.move_merge]
    | sign s =>
      cases s with
      | leftParen =>
        refine .after ((T.lockstep_parseTier stop stop' loosest rest).andThen ?_)
        intro inner mid mid' suffix _ along
        exact (T.lockstep_expect along ..).map fun _ => rfl
      | _ => exact .reject (.step inside rest) ..
    | goTo | newline | unknown text | eof => exact .reject (.step inside rest) ..
termination_by (ts.length, 0)
decreasing_by
  · exact Prod.Lex.left _ _ (by simp)
  · exact Prod.Lex.left _ _ (by simp)

theorem lockstep_parseArguments (T : Transport) (stop stop' : Span) (b : Builtin)
    {ts us : Tokens} (along : T.Alongside ts us) :
    T.Lockstep (Prod.map (List.map (Expr.relocate T.move)) T.move) (parseArguments stop b ts)
      (parseArguments stop' b us) := by
  rw [parseArguments, parseArguments]
  refine (T.lockstep_expect along ..).andThen ?_
  intro _ mid mid' suffix _ along
  refine (T.lockstep_parseList stop stop' b along).andThen ?_
  intro args mid mid' _ _ along
  refine (T.lockstep_expect along ..).andThen ?_
  intro close mid mid' _ _ along
  rw [List.length_map]
  split
  · -- as many arguments as there should be
    exact .accept along rfl
  · -- too few or too many
    exact .error along rfl
termination_by (ts.length, loosest + 6)
decreasing_by exact descends suffix (by decide)

theorem lockstep_parseList (T : Transport) (stop stop' : Span) (b : Builtin) {ts us : Tokens}
    (along : T.Alongside ts us) :
    T.Lockstep (List.map (Expr.relocate T.move)) (parseList stop b ts) (parseList stop' b us) := by
  have closes : us.head?.map (·.value) = some (.sign .rightParen) ↔
      ts.head?.map (·.value) = some (.sign .rightParen) := by
    cases along with
    | ended => simp [ne_sign_of_endsLine T.ends₁, ne_sign_of_endsLine T.ends₂]
    | step => rfl
  rw [parseList, parseList]
  by_cases close : ts.head?.map (·.value) = some (.sign .rightParen)
  · -- the list is empty
    rw [if_pos close, if_pos (closes.mpr close)]
    exact .accept along rfl
  · -- there is an argument, unless the function takes none
    rw [if_neg close, if_neg (mt closes.mp close)]
    split
    · exact .reject along ..
    · exact T.lockstep_parseItems stop stop' along
termination_by (ts.length, loosest + 5)
decreasing_by exact descends List.suffix_rfl (by decide)

theorem lockstep_parseItems (T : Transport) (stop stop' : Span) {ts us : Tokens}
    (along : T.Alongside ts us) :
    T.Lockstep (List.map (Expr.relocate T.move)) (parseItems stop ts) (parseItems stop' us) := by
  rw [parseItems, parseItems]
  refine (T.lockstep_parseTier stop stop' loosest along).andThen ?_
  intro item mid mid' suffix suffix' along
  cases along with
  | ended =>
    dsimp only
    rw [if_neg (ne_sign_of_endsLine T.ends₁ _), if_neg (ne_sign_of_endsLine T.ends₂ _)]
    exact .accept .ended rfl
  | @step t mid mid' inside rest =>
    have along : T.Alongside (t :: mid) (t.relocate T.move :: mid') := .step inside rest
    show T.Lockstep _ (if t.value = _ then _ else _) (if t.value = _ then _ else _)
    split
    · -- a comma, so more arguments come behind it
      refine .after ((T.lockstep_parseItems stop stop' rest).map fun items => ?_)
      rw [List.map_cons]
    · -- the last argument
      exact .accept along rfl
termination_by (ts.length, loosest + 4)
decreasing_by
  · exact descends List.suffix_rfl (by decide)
  · exact Prod.Lex.left _ _ suffix.length_le

end

/-! ## Statements

A statement ends where its line does, and its place is that of the whole line, so the end of the
line is the one thing that a statement reads without using it up.
-/

variable {T : Transport} {ts us : Tokens}

theorem lockstep_parseLabel (along : T.Alongside ts us) (stop stop' : Span) :
    T.Lockstep id (parseLabel stop ts) (parseLabel stop' us) := by
  cases along with
  | ended =>
    rw [parseLabel_of_endsLine T.ends₁, parseLabel_of_endsLine T.ends₂]
    exact .reject .ended ..
  | @step t ts us inside rest =>
    obtain ⟨value, span⟩ := t
    cases value with
    | ident label => exact .after (.accept rest rfl)
    | _ => exact .reject (.step inside rest) ..

theorem lockstep_parseJump (along : T.Alongside ts us) (stop stop' : Span) :
    T.Lockstep (Action.relocate T.move) (parseJump stop ts) (parseJump stop' us) := by
  rw [parseJump, parseJump]
  refine (T.lockstep_expect along ..).andThen fun _ _ _ _ _ along => ?_
  refine (lockstep_parseLabel along ..).andThen fun label _ _ _ _ along => ?_
  refine (T.lockstep_expect along ..).andThen fun _ _ _ _ _ along => ?_
  refine (T.lockstep_expect along ..).andThen fun _ _ _ _ _ along => ?_
  refine (T.lockstep_parseTier stop stop' loosest along).andThen fun condition _ _ _ _ along => ?_
  exact (T.lockstep_expect along ..).map fun _ => rfl

theorem endsLine_eq (along : T.Alongside ts us) : endsLine us = endsLine ts := by
  cases along with
  | ended => rw [endsLine_iff.mpr T.ends₁, endsLine_iff.mpr T.ends₂]
  | step => rfl

theorem lockstep_parseNamed {name : Located Token} (inside : ¬ name.EndsLine)
    (along : T.Alongside ts us) (stop stop' : Span) (label : String) :
    T.Lockstep (Action.relocate T.move) (parseNamed stop name label ts)
      (parseNamed stop' (name.relocate T.move) label us) := by
  cases along with
  | ended =>
    rw [parseNamed_of_endsLine T.ends₁, parseNamed_of_endsLine T.ends₂]
    exact .after (.accept .ended rfl)
  | @step t ts us inside' rest =>
    by_cases assigns : t.value = .sign .assign
    · obtain ⟨value, span⟩ := t
      cases assigns
      refine .after (.after ((T.lockstep_parseTier stop stop' loosest rest).map fun value => ?_))
      rfl
    · have moved : ¬ (t.relocate T.move).EndsLine := inside'
      rw [parseNamed_of_other inside' assigns, parseNamed_of_other moved assigns]
      exact .reject (.step inside (.step inside' rest)) ..

theorem lockstep_parseAction (along : T.Alongside ts us) (stop stop' : Span) :
    T.Lockstep (Action.relocate T.move) (parseAction stop ts) (parseAction stop' us) := by
  cases along with
  | ended => -- no statement begins with the end of a line
    rw [parseAction, parseAction]
    rcases T.ends₁ with kind | kind <;> rcases T.ends₂ with kind' | kind' <;>
      rw [kind, kind'] <;> exact .reject .ended ..
  | @step t ts us inside rest =>
    obtain ⟨value, span⟩ := t
    cases value with
    | ident name => exact lockstep_parseNamed inside rest ..
    | builtin b =>
      cases b with
      | command c =>
        refine .after ((T.lockstep_parseArguments stop stop' (.command c) rest).map fun _ => ?_)
        rfl
      | query q => exact .reject (.step inside rest) ..
    | goTo => exact .after (lockstep_parseJump rest ..)
    | _ => exact .reject (.step inside rest) ..

theorem line_eq (along : T.Alongside ts us) : line us = (line ts).map (·.relocate T.move) := by
  induction along with
  | ended => rw [line_of_endsLine T.ends₁, line_of_endsLine T.ends₂, List.map_nil]
  | @step t ts us inside along ih =>
    have moved : ¬ (t.relocate T.move).EndsLine := inside
    rw [line_cons inside, line_cons moved, ih, List.map_cons]

theorem lineSpan_eq {t : Located Token} (inside : ¬ t.EndsLine) (along : T.Alongside ts us)
    (stop stop' : Span) :
    lineSpan stop' (t.relocate T.move :: us) = T.move (lineSpan stop (t :: ts)) := by
  have last : ((t.relocate T.move :: line us).getLast (List.cons_ne_nil _ _)).span =
      T.move ((t :: line ts).getLast (List.cons_ne_nil _ _)).span := by
    simp only [line_eq along, ← List.map_cons, List.getLast_map]
    rfl
  have moved : ¬ (t.relocate T.move).EndsLine := inside
  rw [lineSpan_cons inside, lineSpan_cons moved, T.move_merge, last]
  rfl

/-- A statement is parsed in the same way, if there is something on the line. -/
theorem lockstep_parseStmt {t : Located Token} (inside : ¬ t.EndsLine) (along : T.Alongside ts us)
    (stop stop' : Span) :
    T.Lockstep (Stmt.relocate T.move) (parseStmt stop (t :: ts))
      (parseStmt stop' (t.relocate T.move :: us)) := by
  rw [parseStmt, parseStmt, lineSpan_eq inside along stop stop']
  refine (lockstep_parseAction (.step inside along) stop stop').andThen ?_
  intro action mid mid' _ _ along
  rw [endsLine_eq along]
  split
  · -- the whole line was used up
    exact .accept along rfl
  · -- there is something left on the line
    exact .reject along ..

end Transport
end Parser
end BrushScript.Syntax
