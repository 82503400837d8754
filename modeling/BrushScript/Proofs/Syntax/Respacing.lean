import BrushScript.Proofs.Syntax.Layout

/-!
# Tokens with spaces between them

A token does not depend on what stands behind it: it is read again from its own text if a space
follows, or nothing (`readPiece_apart`). So if the tokens of a script without problems are written
with single spaces between them, and every line break as a line feed, the tokens are the same:
`lex_respaced`.

The lexer looks one character ahead in three cases, and in each of them a space is as good as the
end of the text: a sign may be the first half of a double one, a name goes on over a joining
character if a letter follows, and a carriage return takes a line feed with it. Text in quotation
marks does not look ahead, since it ends at its own mark.

What a token is written as is read off its place (`slice`), not off the token, so the theorem is
about places too: in the new script the place of each token has the same text again. `Word t text`
holds what is kept of the old script, that from this text the lexer reads this token with nothing or
a space behind it. `lexFrom_words` puts words together.

Spaces inside a text in quotation marks are part of the token, and a script with problems is left
out: what could not be read as a token has no reason to stand alone.
-/

namespace BrushScript.Syntax

/-! ## What stands at a place

The bytes of a place are cut out of the script as characters. On the stretch of a text this gives
the text back, whatever is before it and behind it.
-/

/-- The characters of a text that begin between two of its bytes. -/
def slice (start stop : Nat) : List Char → List Char
  | [] => []
  | c :: rest =>
    let later := slice (start - c.utf8Size) (stop - c.utf8Size) rest
    if start = 0 ∧ 0 < stop then c :: later else later

/-- What a token is written as: what stands in the script at its place, and a line feed for any line
break. -/
def spelling (source : String) (t : Located Token) : String :=
  if t.value = .newline then "\n"
  else String.ofList (slice t.span.start t.span.stop source.toList)

/-- Tokens of a script as they are written there, with single spaces between them. -/
def respaced (source : String) (tokens : List (Located Token)) : String :=
  " ".intercalate (tokens.map (spelling source))

namespace Lexer

open Position (byteLength)

variable {before text tail rest body : List Char} {c : Char} {n : Nat} {t : Token}

theorem slice_nothing (rest : List Char) : slice 0 0 rest = [] := by
  -- on the text, of which nothing begins before the first byte
  induction rest with
  | nil => rfl
  | cons c rest ih => simp [slice, ih]

theorem slice_front (text after : List Char) :
    slice 0 (byteLength text) (text ++ after) = text := by
  induction text with
  | nil => exact slice_nothing after
  | cons c text ih =>
    have := c.utf8Size_pos
    rw [List.cons_append, slice, byteLength, if_pos ⟨rfl, by omega⟩, Nat.zero_sub,
      Nat.add_sub_cancel_left, ih]

theorem slice_behind (before rest : List Char) (start stop : Nat) :
    slice (byteLength before + start) (byteLength before + stop) (before ++ rest) =
      slice start stop rest := by
  induction before with
  | nil => simp [byteLength]
  | cons c before ih =>
    have := c.utf8Size_pos
    rw [List.cons_append, slice, byteLength, if_neg (by omega), Nat.add_assoc, Nat.add_assoc,
      Nat.add_sub_cancel_left, Nat.add_sub_cancel_left, ih]

/-- On the stretch of a text stands that text. -/
theorem slice_stretch (before text after : List Char) :
    slice (stretch before text).start (stretch before text).stop (before ++ text ++ after) =
      text := by
  rw [stretch, List.append_assoc, Position.byteLength_append]
  have behind := slice_behind before (text ++ after) 0 (byteLength text)
  rw [Nat.add_zero, slice_front] at behind
  exact behind

/-- Nothing stands at the end. -/
theorem slice_end (text : List Char) :
    slice (stretch text []).start (stretch text []).stop text = [] := by
  have nothing := slice_stretch text [] []
  rwa [List.append_nil, List.append_nil] at nothing

/-! ## A piece with a space behind it

One lemma for each kind of piece, that it ends where it ended when only a space or nothing follows.
The kinds that never become tokens are out of the question.
-/

/-- A text ends here, or goes on with a space. -/
def Apart (tail : List Char) : Prop := ∀ c ∈ tail.head?, c = ' '

theorem takeWhile_apart {p : Char → Bool} (space : p ' ' = false) (apart : Apart tail)
    (rest : List Char) : (rest.takeWhile p ++ tail).takeWhile p = rest.takeWhile p := by
  rw [List.takeWhile_append_of_pos fun c mem => List.mem_takeWhile_imp mem]
  have stops : tail.takeWhile p = [] := by
    cases tail with
    | nil => rfl
    | cons d tail =>
      obtain rfl := apart d rfl
      rw [List.takeWhile_cons_of_neg (by simp [space])]
  rw [stops, List.append_nil]

theorem nameLength_le_length (rest : List Char) : nameLength rest ≤ rest.length := by
  fun_induction nameLength rest <;> simp_all

theorem nameLength_apart (apart : Apart tail) (rest : List Char) :
    nameLength (rest.take (nameLength rest) ++ tail) = nameLength rest := by
  -- neither the end nor a space goes on with a name
  have stops : nameLength tail = 0 := by
    cases tail with
    | nil => rfl
    | cons d tail =>
      obtain rfl := apart d rfl
      rw [nameLength, if_neg (by decide), if_neg (by simp)]
  -- on the characters of the name
  fun_induction nameLength rest with
  | case1 => exact stops
  | case2 c rest letter ih =>
    rw [List.take_succ_cons, List.cons_append, nameLength, if_pos letter, ih]
  | case3 c rest other joins ih =>
    have letter : rest.head?.any Text.isAlphabetic = true := (Bool.and_eq_true_iff.mp joins).2
    -- the letter behind the joiner belongs to the name, so it is still there
    have still : (rest.take (nameLength rest) ++ tail).head? = rest.head? := by
      cases rest with
      | nil => cases letter
      | cons d rest =>
        have inside : Text.isAlphanumeric d = true := by
          rw [Text.isAlphanumeric, show Text.isAlphabetic d = true from letter, Bool.true_or]
        rw [nameLength, if_pos inside]
        rfl
    rw [List.take_succ_cons, List.cons_append, nameLength, if_neg other, still, if_pos joins, ih]
  | case4 => exact stops

theorem doubleSign?_space (c : Char) : doubleSign? c ' ' = none := by
  unfold doubleSign?
  split <;> first | rfl | simp_all

theorem readSign_apart (apart : Apart tail) (read : readSign c rest = (.token t, n)) :
    readSign c (rest.take n ++ tail) = (.token t, (rest.take n).length) := by
  unfold readSign at read ⊢
  split at read
  · -- a double sign, of which the second character is taken along
    next s double =>
    cases read
    obtain ⟨d, first, -⟩ := Option.bind_eq_some_iff.mp double
    obtain ⟨rest, rfl⟩ := List.head?_eq_some_iff.mp first
    simp only [List.head?_cons, Option.bind_some] at double
    simp [double]
  · -- a single one, of which a space makes no double one
    split at read
    · cases read
      have alone : tail.head?.bind (doubleSign? c) = none := by
        cases tail with
        | nil => rfl
        | cons d tail =>
          obtain rfl := apart d rfl
          exact doubleSign?_space c
      simp [alone]
    · cases read

theorem readString_apart (tail : List Char) (read : readString rest = (.token t, n)) :
    readString (rest.take n ++ tail) = (.token t, (rest.take n).length) := by
  unfold readString at read ⊢
  dsimp only at read ⊢
  split at read
  · -- the text up to the quotation mark
    next closes =>
    cases read
    have inside (c : Char) (mem : c ∈ rest.takeWhile isBody) : isBody c = true :=
      List.mem_takeWhile_imp mem
    have taken :
        rest.take ((rest.takeWhile isBody).length + 1) = rest.takeWhile isBody ++ ['"'] := by
      rw [List.take_add_one, closes, ← List.prefix_iff_eq_take.mp (List.takeWhile_prefix isBody)]
      rfl
    have same :
        (rest.takeWhile isBody ++ '"' :: tail).takeWhile isBody = rest.takeWhile isBody := by
      rw [List.takeWhile_append_of_pos inside, List.takeWhile_cons_of_neg (by decide),
        List.append_nil]
    rw [taken, List.append_assoc, List.singleton_append, same]
    simp
  · -- the end of a line
    cases read
  · -- the end of the script
    cases read

/-- A token is read again from its text alone, with nothing or a space behind it. -/
theorem readPiece_apart (apart : Apart tail) (read : readPiece c rest = (.token t, n)) :
    readPiece c (rest.take n ++ tail) = (.token t, (rest.take n).length) := by
  unfold readPiece at read ⊢
  -- the kinds of pieces in the order in which they are tried; only four of them give tokens
  split at read
  · cases read
  next notFeed =>
  rw [if_neg notFeed]
  split at read
  · cases read
  next notCarriage =>
  rw [if_neg notCarriage]
  split at read
  · cases read
  next notBlank =>
  rw [if_neg notBlank]
  split at read
  · next digit =>
    rw [if_pos digit]
    cases read
    have digits : rest.take (rest.takeWhile Char.isDigit).length = rest.takeWhile Char.isDigit :=
      (List.prefix_iff_eq_take.mp (List.takeWhile_prefix _)).symm
    rw [digits, takeWhile_apart (by decide) apart]
  next notDigit =>
  rw [if_neg notDigit]
  split at read
  · next quote =>
    rw [if_pos quote]
    exact readString_apart tail read
  next notQuote =>
  rw [if_neg notQuote]
  split at read
  · next letter =>
    rw [if_pos letter]
    cases read
    have length : (rest.take (nameLength rest)).length = nameLength rest :=
      List.length_take_of_le (nameLength_le_length rest)
    have taken : (rest.take (nameLength rest) ++ tail).take (nameLength rest) =
        rest.take (nameLength rest) := List.take_left' length
    dsimp only
    rw [nameLength_apart apart, taken, length]
  next notLetter =>
  rw [if_neg notLetter]
  split at read
  · next sign =>
    rw [if_pos sign]
    exact readSign_apart apart read
  · cases read

/-! ## Words

A word is a token that can be written anywhere. A line break is one in a form that stands in any
script, since the carriage returns are gone.
-/

/-- A token and its text, from which it is read with nothing or a space behind it. -/
inductive Word : Token → List Char → Prop where
  | newline : Word .newline ['\n']
  | inLine {t : Token} {c : Char} {body : List Char} (flat : Flat (c :: body))
      (alone : ∀ tail, Apart tail → readPiece c (body ++ tail) = (.token t, body.length)) :
      Word t (c :: body)

/-- Every word or sign of a script is written at its place. -/
theorem exists_word (place : Position) (rest : List Char) : ∀ before, place = .after before →
    Uncut before rest → ∀ t ∈ (lexFrom place rest).tokens, t.value.isOrdinary = true →
      ∃ before' text after, before ++ rest = before' ++ text ++ after ∧
        t.span = stretch before' text ∧ Word t.value text := by
  -- on the pieces; the token is the first one or among the later ones
  induction place, rest using induction_pieces with
  | done here =>
    rintro before rfl - t mem ordinary
    rw [lexFrom] at mem
    cases List.mem_singleton.mp mem
    cases ordinary
  | cons here c rest piece n read ih =>
    rintro before rfl uncut t mem ordinary
    obtain ⟨behind, uncut'⟩ := behind_after read uncut
    have whole : before ++ c :: rest = (before ++ c :: rest.take n) ++ rest.drop n := by simp
    rw [lexFrom_cons read] at mem
    have later := ih _ behind uncut' t
    rw [← whole] at later
    cases piece with
    | blank => exact later mem ordinary
    | lineBreak =>
      rcases List.mem_cons.mp mem with rfl | mem
      · cases ordinary
      · exact later mem ordinary
    | token first =>
      rcases List.mem_cons.mp mem with rfl | mem
      · have flat := flat_of_readPiece read (by simp)
        exact ⟨before, _, _, whole, spanTo_advance .., .inLine flat fun tail apart =>
          readPiece_apart apart read⟩
      · exact later mem ordinary
    | unreadable name problem =>
      rcases List.mem_cons.mp mem with rfl | mem
      · cases ordinary
      · exact later mem ordinary

/-- Behind a word no carriage return is left open. -/
theorem Word.closed (word : Word t text) (before : List Char) :
    (before ++ text).getLast? ≠ some '\r' := by
  cases word with
  | newline => simp
  | @inLine _ c body flat =>
    intro last
    have inside : '\r' ∈ c :: body := by
      rw [List.getLast?_append_of_ne_nil _ (List.cons_ne_nil _ _)] at last
      exact List.mem_of_getLast? last
    cases flat _ inside

/-- Where a word is written, the lexer reads it and goes on behind it. -/
theorem Word.lexFrom_append (word : Word t text) (closed : before.getLast? ≠ some '\r')
    (apart : Apart tail) :
    lexFrom (.after before) (text ++ tail) =
      ⟨⟨t, stretch before text⟩ :: (lexFrom (.after (before ++ text)) tail).tokens,
        (lexFrom (.after (before ++ text)) tail).problems⟩ := by
  have uncut (rest : List Char) : Uncut before rest := fun last => absurd last closed
  cases word with
  | newline =>
    have read : readPiece '\n' tail = (.lineBreak, 0) := by simp [readPiece]
    have behind := (behind_after read (uncut _)).1
    rw [List.singleton_append, lexFrom_cons read, behind, List.take_zero, List.drop_zero,
      spanTo_advance]
    rfl
  | inLine flat alone =>
    have read := alone tail apart
    have behind := (behind_after read (uncut _)).1
    rw [List.cons_append, lexFrom_cons read, behind, List.take_left, List.drop_left,
      spanTo_advance]
    rfl

theorem lexFrom_space (closed : before.getLast? ≠ some '\r') (tail : List Char) :
    lexFrom (.after before) (' ' :: tail) = lexFrom (.after (before ++ [' '])) tail := by
  have read : readPiece ' ' tail = (.blank, 0) := by
    simp [readPiece, show Text.isBlank ' ' = true from by decide]
  have behind := (behind_after read fun last => absurd last closed).1
  rw [lexFrom_cons read, behind, List.take_zero, List.drop_zero]
  rfl

/-! ## Words with spaces between them

Between two words there is a space, behind the last one there may be some. Nothing is read of them.
-/

/-- Nothing is read of spaces at the end. -/
theorem lexFrom_gap {gap : List Char} (spaces : ∀ c ∈ gap, c = ' ') :
    ∀ before : List Char, before.getLast? ≠ some '\r' →
      lexFrom (.after before) gap = ⟨[⟨.eof, stretch (before ++ gap) []⟩], []⟩ := by
  -- on the spaces, with all texts in front of them
  induction gap with
  | nil =>
    intro before _
    rw [lexFrom, List.append_nil, ← spanTo_advance]
    rfl
  | cons c gap ih =>
    intro before closed
    obtain ⟨rfl, later⟩ := List.forall_mem_cons.mp spaces
    rw [lexFrom_space closed, ih later _ (by simp), List.append_assoc, List.singleton_append]

/-- A token with what stands at its place. -/
def written (source : List Char) (t : Located Token) : Token × List Char :=
  (t.value, slice t.span.start t.span.stop source)

/-- Behind the first of several words there is a space, or else only the gap at the end. -/
theorem exists_space {gap : List Char} (spaces : ∀ c ∈ gap, c = ' ') (word : List Char)
    (words : List (List Char)) : ∃ space : List Char, (space = [] ∨ space = [' ']) ∧
      [' '].intercalate (word :: words) ++ gap =
        word ++ (space ++ ([' '].intercalate words ++ gap)) ∧
      Apart (space ++ ([' '].intercalate words ++ gap)) := by
  cases words with
  | nil =>
    refine ⟨[], .inl rfl, by simp, fun c first => ?_⟩
    rw [List.intercalate_nil, List.nil_append, List.nil_append] at first
    exact spaces c (List.mem_of_head? first)
  | cons next words =>
    refine ⟨[' '], .inr rfl, ?_, fun c first => (Option.some.inj first).symm⟩
    rw [List.intercalate_cons_cons, List.append_assoc, List.append_assoc]

/-- Words with single spaces between them, and with or without spaces behind them, are read as what
they are. -/
theorem lexFrom_words {words : List (Token × List Char)} (each : ∀ w ∈ words, Word w.1 w.2)
    {gap : List Char} (spaces : ∀ c ∈ gap, c = ' ') :
    ∀ before : List Char, before.getLast? ≠ some '\r' →
      let text := [' '].intercalate (words.map Prod.snd) ++ gap
      let r := lexFrom (.after before) text
      r.problems = [] ∧ r.tokens.map (written (before ++ text)) = words ++ [(.eof, [])] := by
  -- on the words, with all texts in front of them
  induction words with
  | nil =>
    intro before closed
    dsimp only
    rw [List.map_nil, List.intercalate_nil, List.nil_append, lexFrom_gap spaces before closed]
    refine ⟨rfl, ?_⟩
    rw [List.map_singleton, written, slice_end]
    rfl
  | cons w words ih =>
    intro before closed
    obtain ⟨word, each⟩ := List.forall_mem_cons.mp each
    obtain ⟨space, either, whole, apart⟩ := exists_space spaces w.2 (words.map Prod.snd)
    have goesOn : lexFrom (.after (before ++ w.2))
          (space ++ ([' '].intercalate (words.map Prod.snd) ++ gap)) =
        lexFrom (.after (before ++ w.2 ++ space))
          ([' '].intercalate (words.map Prod.snd) ++ gap) := by
      rcases either with rfl | rfl
      · -- no space, behind the last word
        rw [List.append_nil, List.nil_append]
      · -- a space
        exact lexFrom_space (word.closed before) _
    have closed' : (before ++ w.2 ++ space).getLast? ≠ some '\r' := by
      rcases either with rfl | rfl
      · -- behind the last word
        rw [List.append_nil]
        exact word.closed before
      · -- behind a space
        simp
    obtain ⟨problems, tokens⟩ := ih each _ closed'
    have here := slice_stretch before w.2
      (space ++ ([' '].intercalate (words.map Prod.snd) ++ gap))
    simp only [List.append_assoc] at tokens here
    dsimp only
    rw [List.map_cons, whole, word.lexFrom_append closed apart, goesOn]
    refine ⟨problems, ?_⟩
    rw [List.map_cons, List.append_assoc, tokens, written, here]
    rfl

/-! ## Scripts

The end of the script is the one token that is written as nothing. With it the new script may end in
a space, without it it does not.
-/

/-- The end of a script, where nothing is written, adds a space at most. -/
theorem exists_gap (words : List (List Char)) : ∃ gap : List Char, (∀ c ∈ gap, c = ' ') ∧
    [' '].intercalate (words ++ [[]]) = [' '].intercalate words ++ gap := by
  induction words with
  | nil => exact ⟨[], nofun, rfl⟩
  | cons word words ih =>
    cases words with
    | nil => exact ⟨[' '], List.forall_mem_singleton.mpr rfl, by simp⟩
    | cons next words =>
      obtain ⟨gap, spaces, same⟩ := ih
      refine ⟨gap, spaces, ?_⟩
      rw [List.cons_append, List.cons_append, List.intercalate_cons_cons,
        List.intercalate_cons_cons, ← List.cons_append, same, List.append_assoc _ _ gap]

/-- Without problems nothing was unreadable. -/
theorem isUnknown_eq_false {source : String} (clean : (lex source).problems = [])
    {t : Located Token} (mem : t ∈ (lex source).tokens) : t.value.isUnknown = false := by
  have none := (lex_laidOut source).problems
  rw [clean, List.map_nil, eq_comm, List.map_eq_nil_iff, List.filter_eq_nil_iff] at none
  exact Bool.eq_false_iff.mpr (none t mem)

/-- The tokens of a script without problems are words, up to the end of the script. -/
theorem word_spelling {source : String} (clean : (lex source).problems = [])
    {t : Located Token} (mem : t ∈ (lex source).tokens) (inside : t.value ≠ .eof) :
    Word t.value (spelling source t).toList := by
  have known := isUnknown_eq_false clean mem
  unfold spelling
  split
  · next newline =>
    rw [newline]
    exact .newline
  · next other =>
    have ordinary : t.value.isOrdinary = true := by
      generalize t.value = value at known inside other
      cases value with
      | newline => exact absurd rfl other
      | eof => exact absurd rfl inside
      | unknown => cases known
      | number | string | ident | builtin | goTo | sign => rfl
    obtain ⟨before, text, after, whole, place, word⟩ :=
      exists_word .start source.toList [] rfl nofun t mem ordinary
    rw [List.nil_append] at whole
    rw [place, whole, slice_stretch, String.toList_ofList]
    exact word

/-- The tokens of a script without problems, written with single spaces between them and every line
break as a line feed, make a script without problems that has the same tokens, written in the same
way. The end of the script, where nothing is written, may be one of them or not. -/
theorem lex_respaced (source : String) (clean : (lex source).problems = [])
    (tokens : List (Located Token))
    (all : tokens = (lex source).tokens ∨ tokens = (lex source).tokens.dropLast) :
    let source' := respaced source tokens
    (lex source').problems = [] ∧
      (lex source').tokens.map (fun t => (t.value, spelling source' t)) =
        (lex source).tokens.map fun t => (t.value, spelling source t) := by
  intro source'
  obtain ⟨body, e, whole, eof, only⟩ := endsInEof_lex source
  have last : spelling source e = "" := by
    have place := (reads_lex source).span_eof e (by simp [whole]) eof
    rw [spelling, eof, if_neg nofun, place, List.nil_append, slice_end]
  let words := body.map fun t => (t.value, (spelling source t).toList)
  have each : ∀ w ∈ words, Word w.1 w.2 := by
    intro w mem
    obtain ⟨t, inside, rfl⟩ := List.mem_map.mp mem
    exact word_spelling clean (by simp [whole, inside]) (only t inside)
  obtain ⟨gap, spaces, text⟩ : ∃ gap : List Char, (∀ c ∈ gap, c = ' ') ∧
      source'.toList = [' '].intercalate (words.map Prod.snd) ++ gap := by
    have texts : words.map Prod.snd = (body.map (spelling source)).map String.toList := by
      simp [words]
    rw [show source'.toList = _ from String.toList_intercalate, texts]
    rcases all with rfl | rfl
    · -- with the end of the script
      rw [whole, List.map_append, List.map_singleton, last, List.map_append]
      exact exists_gap _
    · -- without it
      rw [whole, List.dropLast_concat]
      exact ⟨[], nofun, (List.append_nil _).symm⟩
  obtain ⟨problems, same⟩ := lexFrom_words each spaces [] nofun
  rw [List.nil_append, ← text] at same
  rw [← text] at problems
  refine ⟨problems, ?_⟩
  -- the new script is written by what stands in it as the old one is by the words
  let respelled (w : Token × List Char) : Token × String :=
    (w.1, if w.1 = .newline then "\n" else String.ofList w.2)
  have kept (t : Located Token) :
      respelled (t.value, (spelling source t).toList) = (t.value, spelling source t) := by
    simp only [respelled, String.ofList_toList]
    split
    · next newline => rw [spelling, if_pos newline]
    · rfl
  calc (lex source').tokens.map (fun t => (t.value, spelling source' t))
    _ = ((lex source').tokens.map (written source'.toList)).map respelled := by
      rw [List.map_map]
      rfl
    _ = words.map respelled ++ [(e.value, "")] := by
      rw [show (lex source').tokens.map (written source'.toList) = _ from same, eof,
        List.map_append]
      rfl
    _ = (lex source).tokens.map fun t => (t.value, spelling source t) := by
      rw [whole, List.map_append, List.map_singleton, last, List.map_map]
      exact congrArg (· ++ [(e.value, "")]) (List.map_congr_left fun t _ => kept t)

/-- A script without any spaces, in which a name ends in front of a minus and a number in front of
a name. -/
def dense : String := "n-1<-2n\r\n"

theorem lex_dense :
    lex dense =
      ⟨[⟨.ident "n", ⟨0, 1, 1, 1⟩⟩, ⟨.sign .minus, ⟨1, 2, 1, 2⟩⟩, ⟨.number "1", ⟨2, 3, 1, 3⟩⟩,
        ⟨.sign .assign, ⟨3, 5, 1, 4⟩⟩, ⟨.number "2", ⟨5, 6, 1, 6⟩⟩, ⟨.ident "n", ⟨6, 7, 1, 7⟩⟩,
        ⟨.newline, ⟨7, 9, 1, 8⟩⟩, ⟨.eof, ⟨9, 9, 2, 1⟩⟩], []⟩ := by
  decide +kernel

theorem lex_respaced_dense :
    (lex dense).problems = [] ∧ respaced dense (lex dense).tokens = "n - 1 <- 2 n \n " ∧
      (lex "n - 1 <- 2 n \n ").problems = [] ∧
      (lex "n - 1 <- 2 n \n ").tokens.map (fun t => (t.value, spelling "n - 1 <- 2 n \n " t)) =
        (lex dense).tokens.map fun t => (t.value, spelling dense t) := by
  have clean : (lex dense).problems = [] := by rw [lex_dense]
  have spaced : respaced dense (lex dense).tokens = "n - 1 <- 2 n \n " := by
    rw [lex_dense]
    decide +kernel
  have again := lex_respaced dense clean _ (.inl rfl)
  rw [spaced] at again
  exact ⟨clean, spaced, again⟩

end Lexer
end BrushScript.Syntax
