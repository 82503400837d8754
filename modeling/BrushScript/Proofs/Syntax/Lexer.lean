import BrushScript.Proofs.Syntax.Position
import Mathlib.Data.List.TakeWhile

/-!
# What the lexer reads

What the lexer makes of a text is what it makes of the first piece (`Piece.emit`) and of the text
behind it (`lexFrom_cons`), which gives an induction (`induction_pieces`).

`Reads before rest result` is a script behind some other text, read piece by piece: a blank
character leaves no trace, and any other piece is a token on its stretch of the text, with a problem
if it could not be read. `reads_lex` says that the lexer does so, whatever the script is, so that
what is known of its result is proved by induction over the pieces; first of all that it ends in the
only `eof` among the tokens (`endsInEof_lex`).

The lexer carries a place along: an offset, a line and a column. `Reads` carries the text that was
read before instead, and the place is that of its end (`Position.after`). The two stay together
because a piece is either a line break as a whole or text within a line (`behind_after`), and the
place behind each of these is known.
-/

namespace BrushScript.Syntax

/-- Tokens that are words or signs of a script. -/
def Token.isOrdinary : Token → Bool
  | .newline | .unknown _ | .eof => false
  | _ => true

/-- The last token is `eof` and no other one is. -/
def EndsInEof (tokens : List (Located Token)) : Prop :=
  ∃ (body : List (Located Token)) (e : Located Token), tokens = body ++ [e] ∧ e.value = .eof ∧
    ∀ t ∈ body, t.value ≠ .eof

theorem EndsInEof.cons {t : Located Token} {ts : List (Located Token)} (other : t.value ≠ .eof)
    (h : EndsInEof ts) : EndsInEof (t :: ts) := by
  obtain ⟨body, e, rfl, eof, only⟩ := h
  exact ⟨t :: body, e, rfl, eof, List.forall_mem_cons.mpr ⟨other, only⟩⟩

namespace Lexer

variable {before text rest : List Char} {c : Char}

/-! ## One piece

Which characters a piece takes, by its first one. All that matters here is that none of them breaks
a line, but for a piece that is a line break.
-/

theorem isBreak_iff : isBreak c = true ↔ c = '\n' ∨ c = '\r' := by
  simp [isBreak]

/-- The text that a class of characters without line breaks takes is within a line. -/
theorem flat_take_takeWhile {p : Char → Bool} (inLine : ∀ c, p c = true → isBreak c = false)
    (text : List Char) : Flat (text.take (text.takeWhile p).length) := by
  rw [← List.prefix_iff_eq_take.mp (List.takeWhile_prefix p)]
  exact fun c mem => inLine c (List.mem_takeWhile_imp mem)

theorem isBreak_of_isBody (inside : isBody c = true) : isBreak c = false := by
  simp only [isBody, Bool.and_eq_true, bne_iff_ne, ne_eq] at inside
  simp [isBreak, inside]

theorem isBreak_of_isDigit (digit : c.isDigit = true) : isBreak c = false := by
  rw [← Bool.not_eq_true, isBreak_iff]
  rintro (rfl | rfl)
  · cases digit
  · cases digit

/-- What a piece is, given the characters that belong to it and those behind them. -/
def Fits (c : Char) (rest : List Char) (read : Piece × Nat) : Prop :=
  match read.1 with
  | .blank => read.2 = 0 ∧ Text.isBlank c = true ∧ isBreak c = false
  | .lineBreak => ∀ before, Uncut before (c :: rest) →
      IsLineBreak before (c :: rest.take read.2) (rest.drop read.2)
  | .token t => Flat (c :: rest.take read.2) ∧ t.isOrdinary = true
  | .unreadable _ _ => Flat (c :: rest.take read.2)

theorem flat_nameLength (rest : List Char) : Flat (rest.take (nameLength rest)) := by
  fun_induction nameLength rest with
  | case1 => exact flat_nil
  | case2 c rest letter ih =>
    refine flat_cons ?_ ih
    rw [← Bool.not_eq_true, isBreak_iff]
    rintro (rfl | rfl)
    · exact absurd letter (by decide)
    · exact absurd letter (by decide)
  | case3 c rest _ joins ih =>
    refine flat_cons ?_ ih
    rw [← Bool.not_eq_true, isBreak_iff]
    rintro (rfl | rfl)
    · cases joins
    · cases joins
  | case4 => exact flat_nil

theorem ofWord_isOrdinary (word : String) : (ofWord word).isOrdinary = true := by
  unfold ofWord
  split
  · rfl
  · split <;> rfl

theorem isBreak_of_doubleSign? {c d : Char} {s : Sign} (h : doubleSign? c d = some s) :
    isBreak d = false := by
  unfold doubleSign? at h
  split at h
  all_goals first
    | rfl
    | cases h

theorem readSign_fits (inLine : isBreak c = false) (rest : List Char) :
    Fits c rest (readSign c rest) := by
  have single : Flat [c] := flat_cons inLine flat_nil
  unfold readSign
  split
  -- two characters that are one sign
  · next s double =>
    obtain ⟨d, first, second⟩ := Option.bind_eq_some_iff.mp double
    cases rest with
    | nil => cases first
    | cons d' rest =>
      cases first
      exact ⟨flat_cons inLine (flat_cons (isBreak_of_doubleSign? second) flat_nil), rfl⟩
  · split
    · -- one character that is a sign
      exact ⟨single, rfl⟩
    · -- a character that nothing begins with
      exact single

theorem readString_fits (rest : List Char) : Fits '"' rest (readString rest) := by
  have body : Flat (rest.take (rest.takeWhile isBody).length) :=
    flat_take_takeWhile (fun _ => isBreak_of_isBody) rest
  unfold readString
  dsimp only
  split
  · next closes =>
    refine ⟨flat_cons rfl ?_, rfl⟩
    rw [List.take_add_one, closes]
    intro c mem
    rcases List.mem_append.mp mem with inside | quote
    · exact body c inside
    · cases List.mem_singleton.mp quote
      rfl
  · -- the line ends before a quote
    exact flat_cons rfl body
  · -- the script ends before a quote
    exact flat_cons rfl body

/-- Each piece is what the lexer takes it for. -/
theorem readPiece_fits (c : Char) (rest : List Char) : Fits c rest (readPiece c rest) := by
  unfold readPiece
  split
  · next feed =>
    subst feed
    exact fun before uncut => .lineFeed fun last => uncut last rfl
  next notFeed =>
  split
  · next carriage =>
    subst carriage
    intro before _
    split
    · next feed =>
      obtain ⟨rest, rfl⟩ : ∃ later, rest = '\n' :: later := List.head?_eq_some_iff.mp feed
      exact .both
    · next alone => exact .carriageReturn alone
  next notCarriage =>
  have inLine : isBreak c = false := by simp [isBreak, notFeed, notCarriage]
  split
  · next blank => exact ⟨rfl, blank, inLine⟩
  split
  · -- a number
    exact ⟨flat_cons inLine (flat_take_takeWhile (fun _ => isBreak_of_isDigit) rest), rfl⟩
  split
  · next quote =>
    subst quote
    exact readString_fits rest
  split
  · -- a word
    exact ⟨flat_cons inLine (flat_nameLength rest), ofWord_isOrdinary _⟩
  split
  · exact readSign_fits inLine rest
  · -- a character that begins nothing
    exact flat_cons inLine flat_nil

/-! ## Piece by piece

The recursion of the lexer, with the place of a piece and the place behind it. A piece takes at
least one character, so an induction on the length of the text becomes one on its pieces.
-/

section

variable {piece : Piece} {n : Nat}

/-- Where the reading goes on behind a piece that ends in some place. -/
def Piece.behind (stop : Position) : Piece → Position
  | .lineBreak => stop.nextLine
  | _ => stop

/-- What a piece adds to the result from there on. -/
def Piece.emit (span : Span) (later : Result) : Piece → Result
  | .blank => later
  | .lineBreak => { later with tokens := ⟨.newline, span⟩ :: later.tokens }
  | .token t => { later with tokens := ⟨t, span⟩ :: later.tokens }
  | .unreadable text problem =>
    ⟨⟨.unknown text, span⟩ :: later.tokens, ⟨problem, span⟩ :: later.problems⟩

/-- The first piece of a text, and what is read behind it. -/
theorem lexFrom_cons (read : readPiece c rest = (piece, n)) (here : Position) :
    lexFrom here (c :: rest) =
      piece.emit (here.spanTo (here.advance (c :: rest.take n)))
        (lexFrom (piece.behind (here.advance (c :: rest.take n))) (rest.drop n)) := by
  rw [lexFrom, read]
  cases piece <;> rfl

/-- Induction on the pieces of a text. -/
@[elab_as_elim]
theorem induction_pieces {motive : Position → List Char → Prop}
    (done : ∀ here, motive here [])
    (cons : ∀ here c rest piece n, readPiece c rest = (piece, n) →
      motive (piece.behind (here.advance (c :: rest.take n))) (rest.drop n) →
        motive here (c :: rest))
    (here : Position) (text : List Char) : motive here text := by
  induction length : text.length using Nat.strongRecOn generalizing here text with
  | ind k ih =>
    cases text with
    | nil => exact done here
    | cons c rest =>
      refine cons here c rest _ _ rfl (ih (rest.drop _).length ?_ _ _ rfl)
      rw [← length, List.length_drop, List.length_cons]
      omega

/-- A piece that is no line break is text within a line. -/
theorem flat_of_readPiece (read : readPiece c rest = (piece, n)) (other : piece ≠ .lineBreak) :
    Flat (c :: rest.take n) := by
  have fits := readPiece_fits c rest
  rw [read] at fits
  cases piece with
  | blank =>
    obtain ⟨rfl, -, inLine⟩ := fits
    exact flat_cons inLine flat_nil
  | lineBreak => exact absurd rfl other
  | token t => exact fits.1
  | unreadable text problem => exact fits

/-- Behind a piece the reading goes on from the place behind its text, and no line break is cut
there. -/
theorem behind_after (read : readPiece c rest = (piece, n)) (uncut : Uncut before (c :: rest)) :
    piece.behind ((Position.after before).advance (c :: rest.take n)) =
        .after (before ++ c :: rest.take n) ∧
      Uncut (before ++ c :: rest.take n) (rest.drop n) := by
  by_cases breaks : piece = .lineBreak
  · subst breaks
    have fits := readPiece_fits c rest
    rw [read] at fits
    exact ⟨Position.nextLine_after (fits before uncut), (fits before uncut).uncut_append⟩
  · have flat := flat_of_readPiece read breaks
    have goesOn (stop : Position) : piece.behind stop = stop := by
      cases piece <;> first | rfl | exact absurd rfl breaks
    rw [goesOn]
    exact ⟨Position.advance_after before flat, flat.uncut_append nofun⟩

end

/-! ## The whole script

`Spells` is about one piece and `Reads` about the text from there on. Neither mentions the state of
the lexer.
-/

/-- What some text may be a token of, and the problem that it gives. -/
inductive Spells (before : List Char) :
    (text rest : List Char) → Token → Option LexicalProblem → Prop
  | lineBreak {text rest : List Char} (breaks : IsLineBreak before text rest) :
      Spells before text rest .newline none
  | ordinary {text rest : List Char} {t : Token} (flat : Flat text) (nonempty : text ≠ [])
      (ordinary : t.isOrdinary = true) : Spells before text rest t none
  | unreadable {text rest : List Char} {name : String} {problem : LexicalProblem}
      (flat : Flat text) (nonempty : text ≠ []) :
      Spells before text rest (.unknown name) (some problem)

/-- The tokens and problems of a script behind some other text, piece by piece. -/
inductive Reads : (before rest : List Char) → Result → Prop
  | done {before : List Char} : Reads before [] ⟨[⟨.eof, stretch before []⟩], []⟩
  | blank {before rest : List Char} {c : Char} {later : Result} (blank : Text.isBlank c = true)
      (inLine : isBreak c = false) (next : Reads (before ++ [c]) rest later) :
      Reads before (c :: rest) later
  | piece {before text rest : List Char} {t : Token} {problem : Option LexicalProblem}
      {later : Result} (spells : Spells before text rest t problem)
      (next : Reads (before ++ text) rest later) :
      Reads before (text ++ rest)
        ⟨⟨t, stretch before text⟩ :: later.tokens,
          problem.toList.map (⟨·, stretch before text⟩) ++ later.problems⟩

/-- A piece of which the lexer makes a token, and what it reads from there on. -/
theorem Reads.cons {n : Nat} {t : Token} {problem : Option LexicalProblem} {later : Result}
    {span : Span} (place : span = stretch before (c :: rest.take n))
    (spells : Spells before (c :: rest.take n) (rest.drop n) t problem)
    (next : Reads (before ++ c :: rest.take n) (rest.drop n) later) :
    Reads before (c :: rest)
      ⟨⟨t, span⟩ :: later.tokens, problem.toList.map (⟨·, span⟩) ++ later.problems⟩ := by
  have read := Reads.piece spells next
  rw [List.cons_append, List.take_append_drop] at read
  rw [place]
  exact read

/-- From the place behind a text, the lexer reads what follows, if no line break is cut there. -/
theorem reads_lexFrom (place : Position) (rest : List Char) : ∀ before,
    place = .after before → Uncut before rest → Reads before rest (lexFrom place rest) := by
  induction place, rest using induction_pieces with
  | done here =>
    rintro before rfl -
    have span : (Position.after before).spanTo (.after before) = stretch before [] :=
      spanTo_advance before []
    rw [lexFrom, span]
    exact .done
  | cons here c rest piece n read ih =>
    rintro before rfl uncut
    obtain ⟨behind, uncut'⟩ := behind_after read uncut
    have later := ih _ behind uncut'
    have fits := readPiece_fits c rest
    rw [read] at fits
    rw [lexFrom_cons read, spanTo_advance]
    cases piece with
    | blank =>
      obtain ⟨rfl, blank, inLine⟩ := fits
      exact .blank blank inLine later
    | lineBreak => exact .cons rfl (.lineBreak (fits before uncut)) later
    | token t => exact .cons rfl (.ordinary fits.1 (List.cons_ne_nil _ _) fits.2) later
    | unreadable name problem => exact .cons rfl (.unreadable fits (List.cons_ne_nil _ _)) later

theorem reads_lex (source : String) : Reads [] source.toList (lex source) :=
  reads_lexFrom .start source.toList [] rfl nofun

/-! ## The end of the tokens

The end of the script is a token of its own, and no piece is read as one.
-/

theorem Spells.ne_eof {t : Token} {problem : Option LexicalProblem}
    (h : Spells before text rest t problem) : t ≠ .eof := by
  rintro rfl
  cases h with
  | ordinary _ _ ordinary => cases ordinary

theorem Reads.endsInEof {r : Result} (h : Reads before rest r) : EndsInEof r.tokens := by
  induction h with
  | done => exact ⟨[], _, rfl, rfl, nofun⟩
  | blank _ _ _ ih => exact ih
  | piece spells _ ih => exact ih.cons spells.ne_eof

theorem endsInEof_lex (source : String) : EndsInEof (lex source).tokens :=
  (reads_lex source).endsInEof

end Lexer
end BrushScript.Syntax
