import BrushScript.Proofs.Syntax.Relocation
import Mathlib.Order.MinMax

/-!
# Other spellings of the line ends

A script says the same whichever line ending it is written with (`endLines`). The lexer finds the
same pieces (`readPiece_endLines`), only that a piece may stand some bytes further on; lines and
columns are those from before. So the tokens and the problems are the same at the places moved
(`lex_withEnding`), and moving offsets by a strictly monotone function respects what two places
cover together (`respectsMerge_moveOffsets`).

How far a piece has moved depends on how many line feeds come before it. Where each of them becomes
two characters, an offset grows by as many bytes as there are line feeds in front of it
(`movedOffset`), and where each becomes a single carriage return nothing moves at all. The function
is given for all offsets of the source, also for those within a character, so that it is strictly
monotone without a condition.

The source has no carriage returns to begin with. Otherwise a line feed could be the second half of
a line ending, and would not end a line of its own.
-/

namespace BrushScript.Syntax

open Lexer (Position)

/-! ## Moving offsets

An offset is moved, and the line and the column stay as they are.
-/

/-- The span with its offsets changed, on the same line and column. -/
def Span.moveOffsets (g : Nat → Nat) (s : Span) : Span := ⟨g s.start, g s.stop, s.line, s.column⟩

theorem respectsMerge_moveOffsets {g : Nat → Nat} (strict : StrictMono g) :
    RespectsMerge (Span.moveOffsets g) := by
  intro s t
  have order : g t.start < g s.start ↔ t.start < s.start := strict.lt_iff_lt
  simp only [Span.moveOffsets, Span.merge, strict.monotone.map_min, strict.monotone.map_max, order]
  split <;> rfl

namespace Lexer

variable {c : Char} {n : Nat} {rest : List Char} {piece : Piece}

/-! ## Moving a result

To read with moved places is to read and then move the places.
-/

/-- The result with every span changed. -/
def Result.relocate (f : Span → Span) (r : Result) : Result :=
  ⟨r.tokens.map (·.relocate f), r.problems.map (·.relocate f)⟩

theorem Result.relocate_id (r : Result) : r.relocate id = r := by
  have tokens : r.tokens.map (·.relocate id) = r.tokens := List.map_id' _
  have problems : r.problems.map (·.relocate id) = r.problems := List.map_id' _
  rw [relocate, tokens, problems]

theorem emit_relocate (f : Span → Span) (piece : Piece) (span : Span) (later : Result) :
    piece.emit (f span) (later.relocate f) = (piece.emit span later).relocate f := by
  cases piece <;> rfl

/-! ## Line endings

Within its first line a text is not changed, and where the line ends, a character that breaks lines
takes the place of another. No class of characters that the lexer uses can tell these two apart.
-/

/-- The line endings besides the line feed. -/
inductive LineEnding where
  | carriageReturn
  | both
  deriving DecidableEq

/-- What a line ending has behind its carriage return. -/
def LineEnding.tail : LineEnding → List Char
  | carriageReturn => []
  | both => ['\n']

/-- The characters of a line ending. -/
def LineEnding.text (e : LineEnding) : List Char := '\r' :: e.tail

/-- The text with every line feed written as another line ending. -/
def endLines (e : LineEnding) (text : List Char) : List Char :=
  text.flatMap fun c => if c = '\n' then e.text else [c]

variable {e : LineEnding} {text before : List Char}

@[simp] theorem endLines_nil : endLines e [] = [] := rfl

@[simp] theorem endLines_feed (text : List Char) :
    endLines e ('\n' :: text) = e.text ++ endLines e text := rfl

theorem endLines_cons (other : c ≠ '\n') (text : List Char) :
    endLines e (c :: text) = c :: endLines e text := by
  rw [endLines, List.flatMap_cons, if_neg other]
  rfl

theorem endLines_append (text text' : List Char) :
    endLines e (text ++ text') = endLines e text ++ endLines e text' :=
  List.flatMap_append

theorem ne_of_isBreak (inLine : isBreak c = false) : c ≠ '\n' ∧ c ≠ '\r' := by
  rw [← not_or, ← isBreak_iff, inLine]
  exact Bool.false_ne_true

theorem endLines_flat (flat : Flat text) : endLines e text = text := by
  induction text with
  | nil => rfl
  | cons c text ih =>
    obtain ⟨first, later⟩ := List.forall_mem_cons.mp flat
    rw [endLines_cons (ne_of_isBreak first).1, ih later]

/-- The text up to somewhere in its first line is the same. -/
theorem take_endLines (flat : Flat (text.take n)) : (endLines e text).take n = text.take n := by
  induction text generalizing n with
  | nil => rfl
  | cons c text ih =>
    cases n with
    | zero => rfl
    | succ n =>
      obtain ⟨first, later⟩ := List.forall_mem_cons.mp flat
      rw [endLines_cons (ne_of_isBreak first).1, List.take_succ_cons, ih later, List.take_succ_cons]

theorem drop_endLines (flat : Flat (text.take n)) :
    (endLines e text).drop n = endLines e (text.drop n) := by
  induction text generalizing n with
  | nil => rw [List.drop_nil, endLines_nil, List.drop_nil]
  | cons c text ih =>
    cases n with
    | zero => rfl
    | succ n =>
      obtain ⟨first, later⟩ := List.forall_mem_cons.mp flat
      rw [endLines_cons (ne_of_isBreak first).1, List.drop_succ_cons, ih later, List.drop_succ_cons]

/-- No class of characters without line breaks can tell how a text goes on, if not by its first
line. -/
theorem takeWhile_endLines {p : Char → Bool} (inLine : ∀ c, p c = true → isBreak c = false)
    (text : List Char) : (endLines e text).takeWhile p = text.takeWhile p := by
  have no (c : Char) (breaks : isBreak c = true) : ¬ p c = true := by
    intro holds
    cases (inLine c holds).symm.trans breaks
  induction text with
  | nil => rfl
  | cons c text ih =>
    by_cases feed : c = '\n'
    · subst feed
      rw [endLines_feed, LineEnding.text, List.cons_append, List.takeWhile_cons_of_neg (no _ rfl),
        List.takeWhile_cons_of_neg (no _ rfl)]
    · rw [endLines_cons feed, List.takeWhile_cons, List.takeWhile_cons, ih]

theorem head?_endLines (text : List Char) :
    ((endLines e text).head? = text.head? ∧ text.head? ≠ some '\n') ∨
      (endLines e text).head? = some '\r' ∧ text.head? = some '\n' := by
  cases text with
  | nil => exact .inl ⟨rfl, nofun⟩
  | cons c text =>
    by_cases feed : c = '\n'
    · subst feed
      exact .inr ⟨rfl, rfl⟩
    · rw [endLines_cons feed]
      exact .inl ⟨rfl, fun same => feed (Option.some.inj same)⟩

/-! ## One piece

Each kind of piece, up to the end of its line. What is looked at behind it is the end of the line at
most, and all ways to write that look the same.
-/

theorem nameLength_of_isBreak {c : Char} (breaks : isBreak c = true) (rest : List Char) :
    nameLength (c :: rest) = 0 := by
  rw [isBreak_iff] at breaks
  rcases breaks with rfl | rfl
  · rw [nameLength, if_neg (by decide), if_neg (by simp)]
  · rw [nameLength, if_neg (by decide), if_neg (by simp)]

theorem nameLength_endLines (rest : List Char) :
    nameLength (endLines e rest) = nameLength rest := by
  induction rest with
  | nil => rfl
  | cons c rest ih =>
    by_cases feed : c = '\n'
    · subst feed
      rw [endLines_feed, LineEnding.text, List.cons_append, nameLength_of_isBreak rfl,
        nameLength_of_isBreak rfl]
    · have next : (endLines e rest).head?.any Text.isAlphabetic =
          rest.head?.any Text.isAlphabetic := by
        rcases head?_endLines (e := e) rest with ⟨same, -⟩ | ⟨ends, ends'⟩
        · rw [same]
        · rw [ends, ends']
          show Text.isAlphabetic '\r' = Text.isAlphabetic '\n'
          decide
      rw [endLines_cons feed, nameLength, nameLength, next, ih]

theorem doubleSign?_of_isBreak {c d : Char} (breaks : isBreak d = true) :
    doubleSign? c d = none := by
  refine Option.eq_none_iff_forall_ne_some.mpr fun s double => ?_
  cases (isBreak_of_doubleSign? double).symm.trans breaks

theorem readSign_endLines (c : Char) (rest : List Char) :
    readSign c (endLines e rest) = readSign c rest := by
  have next : (endLines e rest).head?.bind (doubleSign? c) = rest.head?.bind (doubleSign? c) := by
    rcases head?_endLines (e := e) rest with ⟨same, -⟩ | ⟨ends, ends'⟩
    · rw [same]
    · rw [ends, ends', Option.bind_some, Option.bind_some, doubleSign?_of_isBreak rfl,
        doubleSign?_of_isBreak rfl]
  rw [readSign, next]
  rfl

theorem readString_endLines (rest : List Char) :
    readString (endLines e rest) = readString rest := by
  have flat : Flat (rest.take (rest.takeWhile isBody).length) :=
    flat_take_takeWhile (fun _ => isBreak_of_isBody) rest
  unfold readString
  dsimp only
  rw [takeWhile_endLines fun _ => isBreak_of_isBody, ← List.head?_drop, ← List.head?_drop,
    drop_endLines flat]
  -- what is behind the body closes it, ends the line, or is not there
  rcases head?_endLines (e := e) (rest.drop (rest.takeWhile isBody).length) with
    ⟨same, -⟩ | ⟨ends, ends'⟩
  · rw [same]
  · rw [ends, ends']
    rfl

/-- A piece that begins within a line does not depend on how the line ends. -/
theorem readPiece_endLines (inLine : isBreak c = false) (rest : List Char) :
    readPiece c (endLines e rest) = readPiece c rest := by
  obtain ⟨notFeed, notReturn⟩ := ne_of_isBreak inLine
  unfold readPiece
  dsimp only
  rw [if_neg notFeed, if_neg notFeed, if_neg notReturn, if_neg notReturn,
    takeWhile_endLines fun _ => isBreak_of_isDigit, readString_endLines, nameLength_endLines,
    take_endLines (flat_nameLength rest), readSign_endLines]

/-- The other line endings are read as a whole. -/
theorem readPiece_lineEnding (e : LineEnding) (rest : List Char) :
    readPiece '\r' (e.tail ++ endLines e rest) = (.lineBreak, e.tail.length) := by
  cases e with
  | both => rfl
  | carriageReturn =>
    have alone : (endLines .carriageReturn rest).head? ≠ some '\n' := by
      rcases head?_endLines (e := .carriageReturn) rest with ⟨same, other⟩ | ⟨ends, -⟩
      · rw [same]
        exact other
      · rw [ends]
        decide
    show readPiece '\r' (endLines .carriageReturn rest) = _
    rw [readPiece, if_neg (by decide), if_pos rfl, if_neg alone]
    rfl

/-! ## Offsets

The number of line feeds before an offset gives the offset in the other text. Only for the places
between two characters does it matter what that is.
-/

open Position (byteLength byteLength_append)

/-- The line feeds of a text that end within its first bytes. -/
def feedsBefore (offset : Nat) : List Char → Nat
  | [] => 0
  | c :: rest =>
    if c.utf8Size ≤ offset then
      (if c = '\n' then 1 else 0) + feedsBefore (offset - c.utf8Size) rest
    else 0

/-- The offset that a place of the source has with another line ending. -/
def movedOffset (e : LineEnding) (source : List Char) (offset : Nat) : Nat :=
  offset + byteLength e.tail * feedsBefore offset source

theorem feedsBefore_le {offset offset' : Nat} (le : offset ≤ offset') (text : List Char) :
    feedsBefore offset text ≤ feedsBefore offset' text := by
  induction text generalizing offset offset' with
  | nil => exact Nat.le_refl 0
  | cons c text ih =>
    unfold feedsBefore
    by_cases fits : c.utf8Size ≤ offset
    · rw [if_pos fits, if_pos (Nat.le_trans fits le)]
      exact Nat.add_le_add_left (ih (Nat.sub_le_sub_right le _)) _
    · rw [if_neg fits]
      exact Nat.zero_le _

theorem strictMono_movedOffset (e : LineEnding) (source : List Char) :
    StrictMono (movedOffset e source) := by
  intro offset offset' lt
  exact Nat.add_lt_add_of_lt_of_le lt
    (Nat.mul_le_mul_left _ (feedsBefore_le (Nat.le_of_lt lt) source))

/-- Behind some of the source, a place is moved behind the same with the other line ending. -/
theorem movedOffset_byteLength (e : LineEnding) (before rest : List Char) :
    movedOffset e (before ++ rest) (byteLength before) = byteLength (endLines e before) := by
  unfold movedOffset
  induction before with
  | nil =>
    cases rest with
    | nil => rfl
    | cons c rest =>
      have tooLong : ¬ c.utf8Size ≤ 0 := Nat.not_le_of_lt c.utf8Size_pos
      simp [feedsBefore, byteLength, tooLong]
  | cons c before ih =>
    rw [List.cons_append, feedsBefore, byteLength, if_pos (Nat.le_add_right ..),
      Nat.add_sub_cancel_left]
    by_cases feed : c = '\n'
    · subst feed
      rw [endLines_feed, byteLength_append, ← ih, LineEnding.text, byteLength, if_pos rfl,
        Nat.mul_add]
      show 1 + _ + _ = 1 + _ + _
      omega
    · rw [endLines_cons feed, byteLength, ← ih, if_neg feed, Nat.zero_add, Nat.add_assoc]

/-- The place with its offset changed. -/
def Position.moveOffset (g : Nat → Nat) (p : Position) : Position := ⟨g p.offset, p.line, p.column⟩

variable {here : Position} {source : List Char}

/-- From a place that was moved, text with the other line ending leads to the offset moved. -/
theorem offset_advance (cut : source = before ++ text ++ rest)
    (reached : here.offset = byteLength before) :
    ((here.moveOffset (movedOffset e source)).advance (endLines e text)).offset =
      movedOffset e source (here.advance text).offset := by
  have first : movedOffset e source (byteLength before) = byteLength (endLines e before) := by
    rw [cut, List.append_assoc]
    exact movedOffset_byteLength ..
  have last : movedOffset e source (byteLength (before ++ text)) =
      byteLength (endLines e (before ++ text)) := by
    rw [cut]
    exact movedOffset_byteLength ..
  show movedOffset e source here.offset + _ = movedOffset e source (here.offset + _)
  rw [reached, first, ← byteLength_append, ← byteLength_append, last, endLines_append]

/-! ## The whole script

The two texts are read side by side, and the places stay together: the one in the new text is the
one in the old text, moved.
-/

/-- With another line ending, the first piece of a text is the same, and so is what stands behind
it. -/
theorem exists_readPiece_endLines (e : LineEnding) (read : readPiece c rest = (piece, n))
    (plain : c ≠ '\r') :
    ∃ c' rest' n', endLines e (c :: rest) = c' :: rest' ∧ readPiece c' rest' = (piece, n') ∧
      c' :: rest'.take n' = endLines e (c :: rest.take n) ∧
      rest'.drop n' = endLines e (rest.drop n) := by
  by_cases feed : c = '\n'
  · -- the line break itself, in another spelling
    subst feed
    cases read
    refine ⟨'\r', e.tail ++ endLines e rest, e.tail.length, rfl, readPiece_lineEnding e rest,
      ?_, ?_⟩
    · rw [List.take_left, List.take_zero, endLines_feed, endLines_nil, List.append_nil]
      rfl
    · rw [List.drop_left]
      rfl
  · -- a piece within a line
    have inLine : isBreak c = false := by
      rw [← Bool.not_eq_true, isBreak_iff, not_or]
      exact ⟨feed, plain⟩
    have other : piece ≠ .lineBreak := by
      rintro rfl
      have fits := readPiece_fits c rest
      rw [read] at fits
      cases (fits [] nofun).isBreak_head rfl ▸ inLine
    obtain ⟨-, flat⟩ := List.forall_mem_cons.mp (flat_of_readPiece read other)
    refine ⟨c, endLines e rest, n, endLines_cons feed rest, ?_, ?_, drop_endLines flat⟩
    · rw [readPiece_endLines inLine, read]
    · rw [endLines_cons feed, take_endLines flat, endLines_flat flat]

/-- Behind a piece, the place with the other line ending is the place moved. -/
theorem behind_moveOffset {g : Nat → Nat}
    (flat : piece ≠ .lineBreak → endLines e text = text)
    (moves : ((here.moveOffset g).advance (endLines e text)).offset =
      g (here.advance text).offset) :
    piece.behind ((here.moveOffset g).advance (endLines e text)) =
      (piece.behind (here.advance text)).moveOffset g := by
  have offset : ∀ p q : Position, p.offset = g q.offset → p.line = q.line → p.column = q.column →
      p = q.moveOffset g := by
    rintro ⟨_, _, _⟩ q rfl rfl rfl
    rfl
  cases piece with
  | lineBreak => exact offset _ _ moves rfl rfl
  | blank | token t | unreadable name problem =>
    refine offset _ _ moves rfl ?_
    show here.column + (endLines e text).length = here.column + text.length
    rw [flat nofun]

/-- From a place that was moved, what is left of a script is read in the same way with another line
ending, if it has no carriage returns. -/
theorem lexFrom_endLines (e : LineEnding) (source : List Char) (here : Position)
    (rest : List Char) :
    ∀ before, source = before ++ rest → here.offset = byteLength before → '\r' ∉ rest →
      lexFrom (here.moveOffset (movedOffset e source)) (endLines e rest) =
        (lexFrom here rest).relocate (Span.moveOffsets (movedOffset e source)) := by
  -- on the pieces, with all texts that can stand in front
  induction here, rest using induction_pieces with
  | done here =>
    intro _ _ _ _
    rw [endLines_nil, lexFrom, lexFrom]
    rfl
  | cons here c rest piece n read ih =>
    intro before cut reached plain
    have notReturn : c ≠ '\r' := fun same => plain (same ▸ List.mem_cons_self)
    have later : '\r' ∉ rest.drop n :=
      fun mem => plain (List.mem_cons_of_mem _ (List.mem_of_mem_drop mem))
    have whole : source = before ++ (c :: rest.take n) ++ rest.drop n := by
      rw [cut, List.append_assoc, List.cons_append, List.take_append_drop]
    have moves := offset_advance (e := e) whole reached
    have behind : (piece.behind (here.advance (c :: rest.take n))).offset =
        byteLength (before ++ c :: rest.take n) := by
      rw [byteLength_append, ← reached]
      cases piece <;> rfl
    obtain ⟨c', rest', n', same, read', text, left⟩ :=
      exists_readPiece_endLines e read notReturn
    rw [same, lexFrom_cons read', lexFrom_cons read, text, left, behind_moveOffset _ moves,
      ih _ whole behind later, ← emit_relocate]
    · -- the places of the piece
      rw [Position.spanTo, moves]
      rfl
    · -- a piece that is no line break holds none
      exact fun other => endLines_flat (flat_of_readPiece read other)

/-- The text of a script with another line ending. -/
def withEnding (e : LineEnding) (source : String) : String :=
  String.ofList (endLines e source.toList)

/-- A script without carriage returns has the same tokens and problems with another line ending, at
the places moved. -/
theorem lex_withEnding (e : LineEnding) {source : String} (plain : '\r' ∉ source.toList) :
    lex (withEnding e source) =
      (lex source).relocate (Span.moveOffsets (movedOffset e source.toList)) := by
  have start : Position.start.moveOffset (movedOffset e source.toList) = .start := by
    have nothing := movedOffset_byteLength e [] source.toList
    rw [Position.moveOffset]
    exact congrArg (Position.mk · 1 1) nothing
  have all := lexFrom_endLines e source.toList .start source.toList [] rfl rfl plain
  rw [start] at all
  rw [lex, lex, withEnding, String.toList_ofList, all]

end Lexer
end BrushScript.Syntax
