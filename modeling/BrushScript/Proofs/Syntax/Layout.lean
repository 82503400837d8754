import BrushScript.Proofs.Syntax.Lexer
import Mathlib.Data.List.Nodup

/-!
# How the tokens of a script lie

`LaidOut source result` says of tokens and problems that they are those of a script without a loss.
The tokens stand in order on whole characters, each with the line and the column of its first one;
between them there are only blanks; and the ends of lines, the end of the script and the problems
are where they belong. The lexer lays out every script so (`lex_laidOut`). All of it is by induction
over the pieces that the lexer reads.

What a line break is, `IsLineBreak` says without the lexer: a line feed, a carriage return that no
line feed follows, or the two together, as a whole. So that each of them is one token has two
directions. A token for the end of a line lies on a line break (`Reads.placed`), and a line break
anywhere in the text has a token (`Reads.newline_mem`), for which no piece may end in the middle of
one or reach over it (`Flat.behind`, `IsLineBreak.behind`).

No token occurs twice, since tokens that are not empty and in order are all different. So to be
among the tokens is to be there once.
-/

namespace BrushScript.Syntax

/-- The token of what could not be read. -/
def Token.isUnknown : Token → Bool
  | .unknown _ => true
  | _ => false

namespace Lexer

open Position (byteLength byteLength_append byteLength_pos byteLength_toList)

variable {before mid text text' tail rest after : List Char} {r : Result}

/-- A token stops before another one starts, and is not empty. -/
def Precedes (s t : Located Token) : Prop :=
  s.span.start < s.span.stop ∧ s.span.stop ≤ t.span.start

/-- The character behind some text belongs to the token. -/
def CoversNext (t : Located Token) (before : List Char) : Prop :=
  t.span.start ≤ byteLength before ∧ byteLength before < t.span.stop

/-- The tokens and problems are those of the script. -/
structure LaidOut (source : String) (r : Result) : Prop where
  /-- A token lies on whole characters, and has the line and the column of the first. -/
  placed : ∀ t ∈ r.tokens, ∃ before text, Marks source t.span before text
  /-- So no two tokens overlap, and none but the last is empty. -/
  ordered : r.tokens.Pairwise Precedes
  /-- A character that belongs to no token is blank and ends no line. -/
  covered : ∀ before c after, source.toList = before ++ c :: after →
    (∃ t ∈ r.tokens, CoversNext t before) ∨ Text.isBlank c = true ∧ c ≠ '\n' ∧ c ≠ '\r'
  ends : ∃ body e, r.tokens = body ++ [e] ∧ (∀ t ∈ body, t.value ≠ .eof) ∧ e.value = .eof ∧
    e.span = stretch source.toList [] ∧ e.span.start = source.utf8ByteSize ∧
      e.span.stop = source.utf8ByteSize
  /-- Each end of a line is one token. -/
  newline_of_lineBreak : ∀ before text after, source.toList = before ++ text ++ after →
    IsLineBreak before text after → r.tokens.count ⟨.newline, stretch before text⟩ = 1
  lineBreak_of_newline : ∀ t ∈ r.tokens, t.value = .newline → ∃ before text after,
    source.toList = before ++ text ++ after ∧ IsLineBreak before text after ∧
      t.span = stretch before text
  /-- There is a problem for each token that could not be read, in the same place. -/
  problems : r.problems.map (·.span) = (r.tokens.filter (·.value.isUnknown)).map (·.span)

/-! ## Tokens on the text

Each token has a text of its own, which begins where the piece begins and ends where it ends.
-/

/-- Each token lies on a stretch of the text, which is a line break if the token says so. -/
theorem Reads.placed (h : Reads before rest r) : ∀ t ∈ r.tokens, ∃ mid text after,
    rest = mid ++ text ++ after ∧ t.span = stretch (before ++ mid) text ∧
      (t.value = .newline → IsLineBreak (before ++ mid) text after) := by
  induction h with
  | @done before =>
    intro t mem
    cases List.mem_singleton.mp mem
    exact ⟨[], [], [], rfl, by rw [List.append_nil], nofun⟩
  | @blank before rest c later _ _ _ ih =>
    intro t mem
    obtain ⟨mid, text, after, rfl, span, breaks⟩ := ih t mem
    refine ⟨c :: mid, text, after, rfl, ?_⟩
    rw [List.append_cons]
    exact ⟨span, breaks⟩
  | @piece before text rest token problem later spells _ ih =>
    intro t mem
    rcases List.mem_cons.mp mem with rfl | behind
    · -- the token of this piece
      refine ⟨[], text, rest, rfl, by rw [List.append_nil], ?_⟩
      rintro rfl
      rw [List.append_nil]
      cases spells with
      | lineBreak breaks => exact breaks
      | ordinary _ _ ordinary => cases ordinary
    · -- a token behind it
      obtain ⟨mid, text', after, rfl, span, breaks⟩ := ih t behind
      refine ⟨text ++ mid, text', after, by simp only [List.append_assoc], ?_⟩
      rw [← List.append_assoc]
      exact ⟨span, breaks⟩

theorem Spells.ne_nil {t : Token} {problem : Option LexicalProblem}
    (h : Spells before text rest t problem) : text ≠ [] := by
  cases h with
  | lineBreak breaks => exact breaks.ne_nil
  | ordinary _ nonempty | unreadable _ nonempty => exact nonempty

theorem stretch_start_lt_stop (nonempty : text ≠ []) :
    (stretch before text).start < (stretch before text).stop := by
  have := byteLength_pos nonempty
  simp only [stretch, byteLength_append]
  omega

theorem Reads.ordered (h : Reads before rest r) : r.tokens.Pairwise Precedes := by
  induction h with
  | done => exact List.pairwise_singleton ..
  | blank _ _ _ ih => exact ih
  | @piece before text rest token problem later spells next ih =>
    refine List.pairwise_cons.mpr ⟨fun t behind => ⟨stretch_start_lt_stop spells.ne_nil, ?_⟩, ih⟩
    obtain ⟨mid, text', after, -, span, -⟩ := next.placed t behind
    rw [span]
    simp only [stretch, byteLength_append]
    omega

/-! ## Between the tokens

A place of the text is looked for among the pieces: it is within the first one, or further on.
-/

/-- A place in a text of two parts is behind the first part or properly before its end. -/
theorem append_cases (h : text ++ rest = mid ++ tail) :
    (∃ m, mid = text ++ m ∧ rest = m ++ tail) ∨
      ∃ m, m ≠ [] ∧ text = mid ++ m ∧ tail = m ++ rest := by
  rcases List.append_eq_append_iff.mp h with behind | ⟨m, rfl, same⟩
  · exact .inl behind
  · by_cases none : m = []
    · subst none
      exact .inl ⟨[], by simp, same.symm⟩
    · exact .inr ⟨m, none, rfl, same⟩

/-- A character that belongs to no token is blank and within a line. -/
theorem Reads.covered (h : Reads before rest r) : ∀ mid c after, rest = mid ++ c :: after →
    (∃ t ∈ r.tokens, CoversNext t (before ++ mid)) ∨
      Text.isBlank c = true ∧ isBreak c = false := by
  induction h with
  | done =>
    intro mid c after cut
    simp at cut
  | @blank before rest b later blank inLine _ ih =>
    intro mid c after cut
    cases mid with
    | nil =>
      cases cut
      exact .inr ⟨blank, inLine⟩
    | cons b' mid =>
      obtain ⟨rfl, below⟩ := List.cons.inj cut
      rw [List.append_cons]
      exact ih mid c after below
  | @piece before text rest token problem later spells _ ih =>
    intro mid c after cut
    rcases append_cases cut with ⟨mid, rfl, below⟩ | ⟨m, nonempty, rfl, -⟩
    · -- the character stands behind the piece
      rw [← List.append_assoc]
      refine (ih mid c after below).imp_left ?_
      rintro ⟨t, mem, covers⟩
      exact ⟨t, List.mem_cons_of_mem _ mem, covers⟩
    · -- it belongs to the piece
      refine .inl ⟨_, List.mem_cons_self, ?_⟩
      have := byteLength_pos nonempty
      simp only [CoversNext, stretch, byteLength_append]
      omega

/-! ## Line breaks

A line break and a piece of text cannot overlap, unless they are the same. For text within a line
this is so because it has no character that breaks lines; for another line break, because neither
may end in the middle of the other.
-/

/-- A line break is not within text of one line. -/
theorem Flat.behind (flat : Flat text) (breaks : IsLineBreak before text' after)
    (cut : text ++ rest = mid ++ (text' ++ after)) :
    ∃ m, mid = text ++ m ∧ rest = m ++ (text' ++ after) := by
  rcases append_cases cut with behind | ⟨m, nonempty, rfl, same⟩
  · exact behind
  · obtain ⟨c, m, rfl⟩ := List.exists_cons_of_ne_nil nonempty
    obtain ⟨d, text', rfl⟩ := List.exists_cons_of_ne_nil breaks.ne_nil
    obtain ⟨rfl, -⟩ := List.cons.inj same
    have inLine := flat d (List.mem_append_right _ List.mem_cons_self)
    cases inLine.symm.trans (breaks.isBreak_head rfl)

theorem IsLineBreak.unique (breaks : IsLineBreak before text rest)
    (breaks' : IsLineBreak before text' after) (same : text' ++ after = text ++ rest) :
    text' = text := by
  cases breaks with
  | lineFeed =>
    cases breaks' with
    | lineFeed => rfl
    | both | carriageReturn => simp at same
  | both =>
    cases breaks' with
    | lineFeed => simp at same
    | both => rfl
    | carriageReturn alone =>
      cases same
      exact absurd rfl alone
  | carriageReturn alone =>
    cases breaks' with
    | lineFeed => simp at same
    | both =>
      cases same
      exact absurd rfl alone
    | carriageReturn => rfl

/-- A whole line break is not within another one. -/
theorem IsLineBreak.behind (breaks : IsLineBreak before text rest)
    (breaks' : IsLineBreak (before ++ mid) text' after)
    (cut : text ++ rest = mid ++ (text' ++ after)) :
    (mid = [] ∧ text' = text) ∨ ∃ m, mid = text ++ m ∧ rest = m ++ (text' ++ after) := by
  rcases append_cases cut with behind | ⟨m, nonempty, whole, same⟩
  · exact .inr behind
  left
  cases mid with
  | nil =>
    cases whole
    rw [List.append_nil] at breaks'
    exact ⟨rfl, breaks.unique breaks' same⟩
  | cons c mid =>
    -- the other line break would begin at the line feed of `\r\n`
    obtain ⟨d, m, rfl⟩ := List.exists_cons_of_ne_nil nonempty
    cases breaks with
    | lineFeed | carriageReturn => simp at whole
    | both =>
      obtain ⟨rfl, last⟩ := List.cons.inj whole
      cases mid with
      | nil =>
        cases last
        have first : text'.head? = some '\n' := by
          obtain ⟨b, text', rfl⟩ := List.exists_cons_of_ne_nil breaks'.ne_nil
          cases same
          rfl
        exact absurd first (breaks'.uncut (by simp))
      | cons => simp at last

/-- Every line break of the text is a token. -/
theorem Reads.newline_mem (h : Reads before rest r) : ∀ mid text after,
    rest = mid ++ (text ++ after) → IsLineBreak (before ++ mid) text after →
      ⟨.newline, stretch (before ++ mid) text⟩ ∈ r.tokens := by
  induction h with
  | done =>
    intro mid text after cut breaks
    simp [breaks.ne_nil] at cut
  | @blank before rest b later blank inLine _ ih =>
    intro mid text after cut breaks
    have flat : Flat [b] := flat_cons inLine flat_nil
    obtain ⟨mid, rfl, below⟩ := flat.behind breaks cut
    rw [← List.append_assoc] at breaks ⊢
    exact ih mid text after below breaks
  | @piece before text rest token problem later spells _ ih =>
    intro mid text' after cut breaks'
    have place : (mid = [] ∧ text' = text ∧ token = .newline) ∨
        ∃ m, mid = text ++ m ∧ rest = m ++ (text' ++ after) := by
      cases spells with
      | lineBreak breaks => exact (breaks.behind breaks' cut).imp_left fun ⟨h, h'⟩ => ⟨h, h', rfl⟩
      | ordinary flat | unreadable flat => exact .inr (flat.behind breaks' cut)
    rcases place with ⟨rfl, rfl, rfl⟩ | ⟨mid, rfl, below⟩
    · -- the line break is this piece
      rw [List.append_nil]
      exact List.mem_cons_self
    · -- it stands behind the piece
      rw [← List.append_assoc] at breaks' ⊢
      exact List.mem_cons_of_mem _ (ih mid text' after below breaks')

/-! ## Problems and the end

A problem is told along with its token, and the end of the script is the one token behind all
pieces.
-/

/-- There is a problem for each token that could not be read, in the same place. -/
theorem Reads.problems (h : Reads before rest r) :
    r.problems.map (·.span) = (r.tokens.filter (·.value.isUnknown)).map (·.span) := by
  induction h with
  | done => rfl
  | blank _ _ _ ih => exact ih
  | @piece before text rest token problem later spells _ ih =>
    cases spells with
    | lineBreak => exact ih
    | ordinary _ _ ordinary =>
      have known : token.isUnknown = false := by cases token <;> first | rfl | cases ordinary
      simp [known, ih]
    | unreadable => simp [Token.isUnknown, ih]

/-- The end of the script stands behind all of it. -/
theorem Reads.span_eof (h : Reads before rest r) : ∀ t ∈ r.tokens, t.value = .eof →
    t.span = stretch (before ++ rest) [] := by
  induction h with
  | done =>
    intro t mem _
    rw [List.mem_singleton.mp mem, List.append_nil]
  | blank _ _ _ ih =>
    intro t mem eof
    rw [List.append_cons]
    exact ih t mem eof
  | piece spells _ ih =>
    intro t mem eof
    rcases List.mem_cons.mp mem with rfl | behind
    · exact absurd eof spells.ne_eof
    · rw [← List.append_assoc]
      exact ih t behind eof

/-! ## All of it

The fields of the layout, each from the lemma about it.
-/

/-- The tokens and problems that the lexer finds are those of the script, whatever it is. -/
theorem lex_laidOut (source : String) : LaidOut source (lex source) := by
  have reads := reads_lex source
  have nodup : (lex source).tokens.Nodup := by
    refine reads.ordered.imp ?_
    rintro s t ⟨nonempty, behind⟩ rfl
    omega
  refine ⟨?_, reads.ordered, ?_, ?_, ?_, ?_, reads.problems⟩
  · -- tokens on the text
    intro t mem
    obtain ⟨before, text, after, whole, span, -⟩ := reads.placed t mem
    exact ⟨before, text, span ▸ marks_stretch whole⟩
  · -- characters that belong to no token
    intro before c after whole
    refine (reads.covered before c after whole).imp_right ?_
    rintro ⟨blank, inLine⟩
    refine ⟨blank, ?_, ?_⟩
    · rintro rfl
      cases inLine
    · rintro rfl
      cases inLine
  · -- the end of the script
    obtain ⟨body, e, all, eof, only⟩ := endsInEof_lex source
    have span := reads.span_eof e (by simp [all]) eof
    rw [List.nil_append] at span
    refine ⟨body, e, all, only, eof, span, ?_, ?_⟩
    · rw [span, stretch, byteLength_toList]
    · rw [span, stretch, List.append_nil, byteLength_toList]
  · -- a line break, which has one token
    intro before text after whole breaks
    rw [List.append_assoc] at whole
    exact List.count_eq_one_of_mem nodup (reads.newline_mem before text after whole breaks)
  · -- the end of a line, which is a line break
    intro t mem newline
    obtain ⟨before, text, after, whole, span, breaks⟩ := reads.placed t mem
    exact ⟨before, text, after, whole, breaks newline, span⟩

end Lexer
end BrushScript.Syntax
