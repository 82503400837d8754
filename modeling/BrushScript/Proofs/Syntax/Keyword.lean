import BrushScript.Proofs.Syntax.Layout
import BrushScript.Proofs.Text.Letters

/-!
# Other spellings of the words

The words of commands and queries, and the jump, are read in any case (`ofWord_congr`). Changing the
case of letters changes no class of characters, so each piece of a script has the same length
whatever the case of its letters is, and is the same piece if it has the same text or is such a word
(`readPiece_of_alike`). Hence a script in which such a word is written in another case has the same
tokens and problems at the same places (`lex_recased`).

Two texts that differ in case only are compared character by character: the characters are the same,
or both are letters (`Alike`). This is weaker than differing in case, and it is all that the lengths
of pieces depend on, as no rule of the lexer tells one letter from another. Only the word itself is
compared regardless of case, and only then when it is one of the language.

The word whose case has changed may stand anywhere in the script. `lexFrom_recased` goes through the
pieces up to the one that is the word: before it the text behind a piece has changed, and from there
on nothing has.
-/

namespace BrushScript.Syntax

/-- The tokens of words of the language. -/
def Token.isKeyword : Token → Bool
  | .builtin _ | .goTo => true
  | _ => false

namespace Lexer

open Position (byteLength byteLength_append byteLength_pos)

/-- The same character, or two letters. -/
def Alike (c d : Char) : Prop := c = d ∨ c.isAlpha = true ∧ d.isAlpha = true

variable {c d : Char} {n : Nat} {piece : Piece} {before word word' after : List Char}
  {rest rest' : List Char}

/-- Texts that differ in the case of letters only. -/
theorem alike_of_lowered (same : rest'.map Char.toLower = rest.map Char.toLower) :
    List.Forall₂ Alike rest rest' := by
  rw [← List.forall₂_eq_eq_eq, List.forall₂_map_left_iff, List.forall₂_map_right_iff] at same
  refine same.flip.imp fun c d same => ?_
  exact Text.eq_or_isAlpha_of_toLower same.symm

/-! ## The length of a piece

How long a piece is depends on the classes of its characters, and on the one behind it. All of these
classes hold all letters, or none.
-/

/-- A class of characters that holds all letters or none takes as much of both texts. -/
theorem length_takeWhile_of_alike {p : Char → Bool} {b : Bool}
    (letters : ∀ c : Char, c.isAlpha = true → p c = b) (h : List.Forall₂ Alike rest rest') :
    (rest'.takeWhile p).length = (rest.takeWhile p).length := by
  induction h with
  | nil => rfl
  | @cons c d rest rest' alike _ ih =>
    have holds : p d = p c := by
      rcases alike with rfl | ⟨letter, letter'⟩
      · -- the same character
        rfl
      · -- two letters
        rw [letters c letter, letters d letter']
    rw [List.takeWhile_cons, List.takeWhile_cons, holds]
    split
    · rw [List.length_cons, List.length_cons, ih]
    · rfl

theorem isBody_of_isAlpha (letter : c.isAlpha = true) : isBody c = true := by
  simp only [isBody, Bool.and_eq_true, bne_iff_ne]
  exact ⟨⟨Text.ne_of_isAlpha letter rfl, Text.ne_of_isAlpha letter rfl⟩,
    Text.ne_of_isAlpha letter rfl⟩

theorem doubleSign?_of_isAlpha (letter : d.isAlpha = true) : doubleSign? c d = none := by
  unfold doubleSign?
  split <;> first | rfl | cases letter

/-- A look at the next character that does not tell letters apart. -/
theorem head?_of_alike {β : Type} {f : Option Char → β} {b : β}
    (letters : ∀ c : Char, c.isAlpha = true → f (some c) = b)
    (h : List.Forall₂ Alike rest rest') : f rest'.head? = f rest.head? := by
  cases h with
  | nil => rfl
  | @cons c d rest rest' alike =>
    rcases alike with rfl | ⟨letter, letter'⟩
    · rfl
    · rw [List.head?_cons, List.head?_cons, letters c letter, letters d letter']

theorem nameLength_of_alike (h : List.Forall₂ Alike rest rest') :
    nameLength rest' = nameLength rest := by
  induction h with
  | nil => rfl
  | @cons c d rest rest' alike later ih =>
    rw [nameLength, nameLength, ih]
    rcases alike with rfl | ⟨letter, letter'⟩
    · have next : rest'.head?.any Text.isAlphabetic = rest.head?.any Text.isAlphabetic :=
        head?_of_alike (f := (·.any Text.isAlphabetic))
          (fun _ letter => Text.isAlphabetic_of_isAlpha letter) later
      rw [next]
    · rw [if_pos (Text.isAlphanumeric_of_isAlpha letter),
        if_pos (Text.isAlphanumeric_of_isAlpha letter')]

theorem readSign_of_alike (h : List.Forall₂ Alike rest rest') (c : Char) :
    readSign c rest' = readSign c rest := by
  have next : rest'.head?.bind (doubleSign? c) = rest.head?.bind (doubleSign? c) :=
    head?_of_alike (f := (·.bind (doubleSign? c)))
      (fun _ letter => doubleSign?_of_isAlpha letter) h
  rw [readSign, next]
  rfl

/-! ## One piece

A piece is compared with that of the other text in three respects: how long it is, what it is if its
own text has not changed, and what it is if it is a word of the language.
-/

theorem lookup?_congr {word word' : String} (same : Text.lowered word' = Text.lowered word) :
    Builtin.lookup? word' = Builtin.lookup? word := by
  unfold Builtin.lookup? Text.caselessEq
  rw [same]

/-- A word of the language is the same token in any case. -/
theorem ofWord_congr {word word' : String} (same : Text.lowered word' = Text.lowered word)
    (keyword : (ofWord word).isKeyword = true) : ofWord word' = ofWord word := by
  have jump : Text.caselessEq word' "GoTo" = Text.caselessEq word "GoTo" := by
    unfold Text.caselessEq
    rw [same]
  unfold ofWord at keyword ⊢
  rw [jump, lookup?_congr same]
  split
  · rfl
  · next name =>
    rw [if_neg name] at keyword
    cases found : Builtin.lookup? word with
    | some b => rfl
    | none =>
      rw [found] at keyword
      cases keyword

/-- What a piece comes to if its text is written in another case: its length stays, and it is the
same if its text is the same, or if it is a word of the language. -/
structure SamePiece (text text' : List Char) (read read' : Piece × Nat) : Prop where
  length_eq : read'.2 = read.2
  piece_eq : text' = text → read'.1 = read.1
  word_eq : ∀ t, read.1 = .token t → t.isKeyword = true →
    text'.map Char.toLower = text.map Char.toLower → read'.1 = read.1

theorem SamePiece.of_eq {text text' : List Char} {read read' : Piece × Nat} (same : read' = read) :
    SamePiece text text' read read' := by
  subst same
  exact ⟨rfl, fun _ => rfl, fun _ _ _ _ => rfl⟩

/-- Words of the same length. -/
theorem samePiece_word (n : Nat) :
    SamePiece (c :: rest.take n) (d :: rest'.take n)
      (.token (ofWord (String.ofList (c :: rest.take n))), n)
      (.token (ofWord (String.ofList (d :: rest'.take n))), n) := by
  refine ⟨rfl, fun same => ?_, fun t read keyword same => ?_⟩
  · -- the same text is the same word
    rw [same]
  · -- a word of the language is the same in any case
    cases read
    refine congrArg Piece.token (ofWord_congr ?_ keyword)
    rwa [Text.lowered, Text.lowered, String.toList_ofList, String.toList_ofList]

theorem readPiece_of_isAlpha (letter : c.isAlpha = true) (rest : List Char) :
    readPiece c rest =
      (.token (ofWord (String.ofList (c :: rest.take (nameLength rest)))), nameLength rest) := by
  unfold readPiece
  rw [if_neg (Text.ne_of_isAlpha letter rfl), if_neg (Text.ne_of_isAlpha letter rfl),
    if_neg (by simp [Text.isBlank_of_isAlpha letter]),
    if_neg (by simp [Text.isDigit_of_isAlpha letter]), if_neg (Text.ne_of_isAlpha letter rfl),
    if_pos (Text.isAlphabetic_of_isAlpha letter)]

/-- Pieces that are no words, the same if the characters taken are. -/
theorem samePiece_other {text text' : List Char} {taken taken' : List Char} {n n' : Nat}
    (piece : List Char → Piece) (length : n' = n) (covers : text' = text → taken' = taken)
    (other : ∀ t, piece taken = .token t → t.isKeyword = false) :
    SamePiece text text' (piece taken, n) (piece taken', n') := by
  refine ⟨length, fun same => ?_, fun t read keyword => ?_⟩
  · rw [covers same]
  · cases (other t read).symm.trans keyword

theorem takeWhile_congr {p : Char → Bool} {k : Nat}
    (length : (rest'.takeWhile p).length = (rest.takeWhile p).length)
    (le : (rest.takeWhile p).length ≤ k) (same : rest'.take k = rest.take k) :
    rest'.takeWhile p = rest.takeWhile p := by
  have taken := congrArg (List.take (rest.takeWhile p).length) same
  rw [List.take_take, List.take_take, Nat.min_eq_left le] at taken
  rw [List.prefix_iff_eq_take.mp (List.takeWhile_prefix p), length, taken,
    ← List.prefix_iff_eq_take.mp (List.takeWhile_prefix p)]

/-- Reading a text asks of the character behind the body only whether it is a quote. -/
theorem readString_eq (rest : List Char) :
    readString rest =
      match (rest[(rest.takeWhile isBody).length]?).map (· == '"') with
      | some true => (.token (.string (String.ofList (rest.takeWhile isBody))),
          (rest.takeWhile isBody).length + 1)
      | some false => (.unreadable (String.ofList ('"' :: rest.takeWhile isBody) ++ "...")
          .newlineInString, (rest.takeWhile isBody).length)
      | none => (.unreadable (String.ofList ('"' :: rest.takeWhile isBody)) .unterminatedString,
          (rest.takeWhile isBody).length) := by
  unfold readString
  dsimp only
  cases rest[(rest.takeWhile isBody).length]? with
  | none => rfl
  | some c =>
    by_cases quote : c = '"'
    · subst quote
      rfl
    · rw [Option.map_some, beq_eq_false_iff_ne.mpr quote]
      split
      · next same => exact absurd (Option.some.inj same) quote
      · rfl
      · next none => cases none

theorem readString_of_alike (h : List.Forall₂ Alike rest rest') :
    SamePiece ('"' :: rest.take (readString rest).2) ('"' :: rest'.take (readString rest).2)
      (readString rest) (readString rest') := by
  have length := length_takeWhile_of_alike (p := isBody) (fun _ => isBody_of_isAlpha) h
  have behind : (rest'[(rest.takeWhile isBody).length]?).map (· == '"') =
      (rest[(rest.takeWhile isBody).length]?).map (· == '"') := by
    rw [← List.head?_drop, ← List.head?_drop]
    refine head?_of_alike (f := Option.map (· == '"')) (b := some false) (fun c letter => ?_)
      (List.forall₂_drop _ h)
    rw [Option.map_some, beq_eq_false_iff_ne.mpr (Text.ne_of_isAlpha letter rfl)]
  have body {k : Nat} (le : (rest.takeWhile isBody).length ≤ k)
      (same : '"' :: rest'.take k = '"' :: rest.take k) :
      rest'.takeWhile isBody = rest.takeWhile isBody :=
    takeWhile_congr length le (List.cons.inj same).2
  rw [readString_eq rest, readString_eq rest', length, behind]
  split
  · -- a text with its closing quote
    refine samePiece_other (fun body => .token (.string (String.ofList body))) rfl
      (body (Nat.le_succ _)) ?_
    rintro _ ⟨⟩
    rfl
  · -- a text that the end of its line cuts off
    exact samePiece_other
      (fun body => .unreadable (String.ofList ('"' :: body) ++ "...") .newlineInString) rfl
      (body (Nat.le_refl _)) nofun
  · -- a text that the end of the script cuts off
    exact samePiece_other
      (fun body => .unreadable (String.ofList ('"' :: body)) .unterminatedString) rfl
      (body (Nat.le_refl _)) nofun

theorem readNumber_of_alike (h : List.Forall₂ Alike rest rest') :
    SamePiece (c :: rest.take (rest.takeWhile Char.isDigit).length)
      (c :: rest'.take (rest.takeWhile Char.isDigit).length)
      (.token (.number (String.ofList (c :: rest.takeWhile Char.isDigit))),
        (rest.takeWhile Char.isDigit).length)
      (.token (.number (String.ofList (c :: rest'.takeWhile Char.isDigit))),
        (rest'.takeWhile Char.isDigit).length) := by
  have length := length_takeWhile_of_alike (p := Char.isDigit)
    (fun _ => Text.isDigit_of_isAlpha) h
  refine samePiece_other (fun digits => .token (.number (String.ofList (c :: digits)))) length
    (fun same => takeWhile_congr length (Nat.le_refl _) (List.cons.inj same).2) ?_
  rintro _ ⟨⟩
  rfl

theorem readPiece_of_alike (first : Alike c d) (h : List.Forall₂ Alike rest rest') :
    SamePiece (c :: rest.take (readPiece c rest).2) (d :: rest'.take (readPiece c rest).2)
      (readPiece c rest) (readPiece d rest') := by
  rcases first with rfl | ⟨letter, letter'⟩
  · unfold readPiece
    -- the branches are the kinds of a piece by their first character
    split
    · exact .of_eq rfl
    split
    · have next : (if rest'.head? = some '\n' then 1 else 0) =
          if rest.head? = some '\n' then 1 else 0 :=
        head?_of_alike (f := fun head => if head = some '\n' then 1 else 0) (b := 0)
          (fun d letter => if_neg (mt Option.some.inj (Text.ne_of_isAlpha letter rfl))) h
      exact .of_eq (congrArg (Prod.mk Piece.lineBreak) next)
    split
    · exact .of_eq rfl
    split
    · exact readNumber_of_alike h
    split
    · next quote =>
      subst quote
      exact readString_of_alike h
    split
    · dsimp only
      rw [nameLength_of_alike h]
      exact samePiece_word _
    split
    · exact .of_eq (readSign_of_alike h c)
    · exact .of_eq rfl
  · -- two letters, each of which begins a word
    rw [readPiece_of_isAlpha letter, readPiece_of_isAlpha letter', nameLength_of_alike h]
    exact samePiece_word _

/-! ## How far pieces reach

A piece never takes more characters than there are, and never begins before the place from where it
is read.
-/

theorem nameLength_le (rest : List Char) : nameLength rest ≤ rest.length := by
  fun_induction nameLength rest with
  | case1 => exact Nat.le_refl 0
  | case2 c rest _ ih => exact Nat.succ_le_succ ih
  | case3 c rest _ _ ih => exact Nat.succ_le_succ ih
  | case4 => exact Nat.zero_le _

theorem length_takeWhile_le (p : Char → Bool) (rest : List Char) :
    (rest.takeWhile p).length ≤ rest.length :=
  (List.takeWhile_sublist p).length_le

theorem readSign_le (c : Char) (rest : List Char) : (readSign c rest).2 ≤ rest.length := by
  unfold readSign
  cases rest with
  | nil =>
    dsimp only [List.head?_nil, Option.bind_none]
    split <;> exact Nat.le_refl 0
  | cons d rest =>
    split
    · exact Nat.succ_le_succ (Nat.zero_le _)
    · split <;> exact Nat.zero_le _

theorem readString_le (rest : List Char) : (readString rest).2 ≤ rest.length := by
  unfold readString
  dsimp only
  split
  · next quote => exact (List.getElem?_eq_some_iff.mp quote).1
  · exact length_takeWhile_le ..
  · exact length_takeWhile_le ..

/-- A piece belongs to the text. -/
theorem readPiece_le (c : Char) (rest : List Char) : (readPiece c rest).2 ≤ rest.length := by
  unfold readPiece
  split
  · exact Nat.zero_le _
  split
  · split
    · next feed =>
      obtain ⟨rest, rfl⟩ := List.head?_eq_some_iff.mp feed
      exact Nat.succ_le_succ (Nat.zero_le _)
    · exact Nat.zero_le _
  split
  · exact Nat.zero_le _
  split
  · exact length_takeWhile_le ..
  split
  · exact readString_le rest
  split
  · exact nameLength_le rest
  split
  · exact readSign_le c rest
  · exact Nat.zero_le _

theorem mem_tokens_emit {t : Located Token} {span : Span} {later : Result}
    (mem : t ∈ (piece.emit span later).tokens) (keyword : t.value.isKeyword = true) :
    (t.span = span ∧ piece = .token t.value) ∨ t ∈ later.tokens := by
  cases piece with
  | blank => exact .inr mem
  | lineBreak =>
    rcases List.mem_cons.mp mem with rfl | behind
    · cases keyword
    · exact .inr behind
  | token value =>
    rcases List.mem_cons.mp mem with rfl | behind
    · exact .inl ⟨rfl, rfl⟩
    · exact .inr behind
  | unreadable name problem =>
    rcases List.mem_cons.mp mem with rfl | behind
    · cases keyword
    · exact .inr behind

theorem offset_behind (piece : Piece) (stop : Position) :
    (piece.behind stop).offset = stop.offset := by
  cases piece <;> rfl

/-- No word begins in front of the place from where the text is read. -/
theorem offset_le_start (here : Position) (text : List Char) :
    ∀ t ∈ (lexFrom here text).tokens, t.value.isKeyword = true → here.offset ≤ t.span.start := by
  induction here, text using induction_pieces with
  | done here =>
    intro t mem keyword
    rw [lexFrom, List.mem_singleton] at mem
    subst mem
    cases keyword
  | cons here c rest piece n read ih =>
    intro t mem keyword
    rw [lexFrom_cons read] at mem
    rcases mem_tokens_emit mem keyword with ⟨place, -⟩ | behind
    · rw [place]
      exact Nat.le_refl _
    · have later := ih t behind keyword
      rw [offset_behind] at later
      exact Nat.le_trans (Nat.le_add_right ..) later

/-! ## The whole script

The places behind a text depend on how long it is, in bytes and in characters, and the case of a
letter changes neither. So the reading goes on at the same place.
-/

theorem byteLength_of_alike (h : List.Forall₂ Alike rest rest') :
    byteLength rest' = byteLength rest := by
  induction h with
  | nil => rfl
  | @cons c d rest rest' alike _ ih =>
    rw [byteLength, byteLength, ih]
    rcases alike with rfl | ⟨letter, letter'⟩
    · rfl
    · rw [Text.utf8Size_of_isAlpha letter, Text.utf8Size_of_isAlpha letter']

theorem advance_of_alike (h : List.Forall₂ Alike rest rest') (here : Position) :
    here.advance rest' = here.advance rest := by
  rw [Position.advance, byteLength_of_alike h, ← h.length_eq]
  rfl

/-- Of two ways to cut a text, the shorter first part begins the longer one. -/
theorem exists_of_byteLength_le {text tail : List Char} (cut : text ++ rest = before ++ tail)
    (le : byteLength text ≤ byteLength before) : ∃ m, before = text ++ m ∧ rest = m ++ tail := by
  rcases append_cases cut with behind | ⟨m, nonempty, rfl, -⟩
  · exact behind
  · have := byteLength_pos nonempty
    rw [byteLength_append] at le
    omega

theorem eq_nil_of_byteLength (none : byteLength rest = 0) : rest = [] := by
  by_contra nonempty
  exact absurd (byteLength_pos nonempty) (by omega)

theorem le_of_readPiece (read : readPiece c rest = (piece, n)) : n ≤ rest.length := by
  have le := readPiece_le c rest
  rwa [read] at le

/-- A piece is the same with the text behind it in another case. -/
theorem readPiece_recased {tail : List Char} (read : readPiece c rest = (piece, n))
    (same : tail.map Char.toLower = (rest.drop n).map Char.toLower) :
    readPiece c (rest.take n ++ tail) = (piece, n) := by
  have taken : (rest.take n).length = n := by
    rw [List.length_take, Nat.min_eq_left (le_of_readPiece read)]
  have both : List.Forall₂ Alike rest (rest.take n ++ tail) := by
    refine alike_of_lowered ?_
    rw [List.map_append, same, ← List.map_append, List.take_append_drop]
  obtain ⟨n_eq, piece_eq, -⟩ := readPiece_of_alike (.inl rfl : Alike c c) both
  rw [read] at n_eq piece_eq
  rw [List.take_left' taken] at piece_eq
  exact Prod.ext (piece_eq rfl) n_eq

/-- A text is read in the same way with its first piece in another case, if that is a word. -/
theorem lexFrom_recased_first {t : Token} (read : readPiece c rest = (.token t, n))
    (keyword : t.isKeyword = true)
    (same : word'.map Char.toLower = (c :: rest.take n).map Char.toLower) (here : Position) :
    lexFrom here (word' ++ rest.drop n) = lexFrom here (c :: rest) := by
  have alike := alike_of_lowered same
  have length : word'.length = n + 1 := by
    rw [← alike.length_eq, List.length_cons, List.length_take,
      Nat.min_eq_left (le_of_readPiece read)]
  obtain ⟨d, w, rfl⟩ := List.exists_cons_of_length_eq_add_one length
  have length : w.length = n := Nat.succ.inj length
  have both : List.Forall₂ Alike rest (w ++ rest.drop n) := by
    refine alike_of_lowered ?_
    rw [List.map_append, (List.cons.inj same).2, ← List.map_append, List.take_append_drop]
  obtain ⟨n_eq, -, piece_eq⟩ := readPiece_of_alike (List.forall₂_cons.mp alike).1 both
  rw [read] at n_eq piece_eq
  rw [List.take_left' length] at piece_eq
  have read' : readPiece d (w ++ rest.drop n) = (.token t, n) :=
    Prod.ext (piece_eq t rfl keyword same) n_eq
  rw [List.cons_append, lexFrom_cons read', lexFrom_cons read, List.take_left' length,
    List.drop_left' length, advance_of_alike alike]

/-- From a place on, a text is read in the same way with one of its words in another case. -/
theorem lexFrom_recased (here : Position) (text : List Char) :
    ∀ before word word' after t, text = before ++ (word ++ after) →
      t ∈ (lexFrom here text).tokens → t.value.isKeyword = true →
      t.span.start = here.offset + byteLength before →
      t.span.stop = here.offset + byteLength (before ++ word) →
      word'.map Char.toLower = word.map Char.toLower →
        lexFrom here (before ++ (word' ++ after)) = lexFrom here text := by
  induction here, text using induction_pieces with
  | done here =>
    rintro before word word' after t - mem keyword
    rw [lexFrom, List.mem_singleton] at mem
    subst mem
    cases keyword
  | cons here c rest piece n read ih =>
    intro before word word' after t cut mem keyword start stop same
    have whole : (c :: rest.take n) ++ rest.drop n = before ++ (word ++ after) := by
      rw [List.cons_append, List.take_append_drop, cut]
    rw [lexFrom_cons read] at mem
    rcases mem_tokens_emit mem keyword with ⟨place, isWord⟩ | behind
    · -- the word is the first piece
      rw [place] at start stop
      have start : here.offset = here.offset + byteLength before := start
      have stop : here.offset + byteLength (c :: rest.take n) =
          here.offset + byteLength (before ++ word) := stop
      obtain rfl : before = [] := eq_nil_of_byteLength (by omega)
      rw [List.nil_append] at stop whole
      obtain ⟨m, rfl, rest_eq⟩ := exists_of_byteLength_le whole (by omega)
      rw [byteLength_append] at stop
      obtain rfl : m = [] := eq_nil_of_byteLength (by omega)
      rw [List.append_nil] at same
      rw [List.nil_append, ← show rest.drop n = after from rest_eq]
      subst isWord
      exact lexFrom_recased_first read keyword same here
    · -- the word stands behind the first piece
      have reached := offset_le_start _ _ t behind keyword
      rw [offset_behind, start] at reached
      have reached : here.offset + byteLength (c :: rest.take n) ≤
          here.offset + byteLength before := reached
      obtain ⟨m, rfl, rest_eq⟩ := exists_of_byteLength_le whole (by omega)
      have taken : (rest.take n).length = n := by
        rw [List.length_take, Nat.min_eq_left (le_of_readPiece read)]
      have read' : readPiece c (rest.take n ++ (m ++ (word' ++ after))) = (piece, n) := by
        refine readPiece_recased read ?_
        simp only [rest_eq, List.map_append, same]
      have later := ih m word word' after t rest_eq behind keyword
        (by rw [offset_behind, start, byteLength_append, ← Nat.add_assoc]; rfl)
        (by rw [offset_behind, stop, List.append_assoc, byteLength_append, ← Nat.add_assoc]; rfl)
        same
      rw [List.append_assoc, List.cons_append, lexFrom_cons read', lexFrom_cons read,
        List.take_left' taken, List.drop_left' taken, later]

/-- A script is read in the same way with one of its words in another case. -/
theorem lex_recased {source : String} {t : Located Token} (mem : t ∈ (lex source).tokens)
    (keyword : t.value.isKeyword = true) (whole : source.toList = before ++ word ++ after)
    (place : t.span = stretch before word)
    (same : word'.map Char.toLower = word.map Char.toLower) :
    lex (String.ofList (before ++ word' ++ after)) = lex source := by
  rw [List.append_assoc] at whole
  rw [lex, String.toList_ofList, List.append_assoc]
  refine lexFrom_recased _ _ before word word' after t whole mem keyword ?_ ?_ same
  · rw [place]
    exact (Nat.zero_add _).symm
  · rw [place]
    exact (Nat.zero_add _).symm

end Lexer
end BrushScript.Syntax
