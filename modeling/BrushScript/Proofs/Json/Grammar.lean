import BrushScript.Proofs.Json.Reading

/-!
# The grammar of JSON, and that all of it is read

`Writes j cs` says that the characters are a text of the value: blanks may stand around every item,
key and value, numbers and texts are written in all ways of their own grammars, and members come in
the order in which the value has them. Whatever follows the grammar is read as its value
(`Writes.isRead`); the same holds of a document, which may have blanks around it
(`WritesDocument.read?`).

The grammar is stated without the reader, as a relation with one rule for each form of a value. An
array and an object are lists of pieces, and a piece carries the blanks that were put around it and
the proof that they are blanks, so that a text that follows the grammar cannot be put together
wrongly.

What a reader has to know of the rest of the text is where a number ends: a digit behind it would
belong to it. So a value is read wherever what follows cannot belong to a number (`IsRead`), and the
characters that end a value inside another one, a comma, a bracket or a blank, are all of this kind.

* `read_separated`, `emptyOr_separated`: lists between brackets, for arrays and objects alike;
* `isRead_number`, `isRead_string`, `isRead_array`, `isRead_object`: one value of each form;
* `Writes.isRead`: the induction over the grammar that applies them.
-/

namespace BrushScript.Json

/-! ## The grammar

The rules, from the blanks up to documents. Lists are written with commas between their parts, and
all the blanks that may stand around a comma belong to the parts.
-/

/-- Nothing but blanks. -/
def Gap (cs : List Char) : Prop := ∀ c ∈ cs, isSpace c = true

/-- A value, the characters that stand for it, and the blanks around them. -/
structure Piece where
  value : Json
  text : List Char
  before : List Char
  behind : List Char
  gap_before : Gap before
  gap_behind : Gap behind

/-- All characters of a piece. -/
def Piece.whole (p : Piece) : List Char := p.before ++ (p.text ++ p.behind)

/-- A member: a key with the blanks around it, and the value. -/
structure MemberPiece where
  key : Option String
  name : List Char
  before : List Char
  behind : List Char
  piece : Piece
  gap_before : Gap before
  gap_behind : Gap behind
  written : WritesText key name

/-- All characters of a member. -/
def MemberPiece.whole (m : MemberPiece) : List Char :=
  m.before ++ (m.name ++ (m.behind ++ ':' :: m.piece.whole))

/-- The member that was written. -/
def MemberPiece.member (m : MemberPiece) : Option String × Json := (m.key, m.piece.value)

/-- Commas between the parts. -/
def separated : List (List Char) → List Char
  | [] => []
  | [cs] => cs
  | cs :: next :: rest => cs ++ ',' :: separated (next :: rest)

/-- The characters are a text of the value. -/
inductive Writes : Json → List Char → Prop
  | null : Writes .null "null".toList
  | yes : Writes (.boolean true) "true".toList
  | no : Writes (.boolean false) "false".toList
  | number {cs : List Char} (literal : WritesNumber cs) : Writes (.number (String.ofList cs)) cs
  | string {text : Option String} {cs : List Char} (quoted : WritesText text cs) :
    Writes (.string text) cs
  | array {items : List Piece} {gap : List Char} (blank : Gap gap)
      (each : ∀ p ∈ items, Writes p.value p.text) :
    Writes (.array (items.map (·.value)))
      ('[' :: (separated (items.map (·.whole)) ++ (gap ++ [']'])))
  | object {members : List MemberPiece} {gap : List Char} (blank : Gap gap)
      (each : ∀ m ∈ members, Writes m.piece.value m.piece.text) :
    Writes (.object (members.map (·.member)))
      ('\x7b' :: (separated (members.map (·.whole)) ++ (gap ++ ['\x7d'])))

/-- The text is a document of the value. -/
def WritesDocument (j : Json) (s : String) : Prop :=
  ∃ p : Piece, p.value = j ∧ Writes j p.text ∧ s.toList = p.whole

variable {gap rest left : List Char} {j : Json} {cs : List Char}

/-! ## Blanks

Blanks are skipped up to the first character that is none.
-/

theorem gap_nil : Gap [] := nofun

theorem skipSpaces_gap (blank : Gap gap) {c : Char} (shown : isSpace c = false) (cs : List Char) :
    skipSpaces (gap ++ c :: cs) = c :: cs := by
  rw [skipSpaces_append blank, skipSpaces_cons shown]

/-- Blanks end a number. -/
theorem endsNumber_gap (blank : Gap gap) (ends : EndsNumber rest) : EndsNumber (gap ++ rest) := by
  cases gap with
  | nil => exact ends
  | cons c more =>
    refine endsNumber_cons ?_ _
    have space := blank c List.mem_cons_self
    simp only [isSpace, Bool.or_eq_true, decide_eq_true_eq] at space
    obtain ((rfl | rfl) | rfl) | rfl := space <;> decide

/-! ## One value

Values that are not made of others, and the first character of each value. It is never a blank, so
the blanks in front of a value end there, and never a closing bracket, so a list that begins with a
value is not empty.
-/

/-- Wherever the characters stand, with blanks before them, they are read as the value. -/
def IsRead (j : Json) (cs : List Char) : Prop :=
  ∀ gap rest, Gap gap → EndsNumber rest →
    plainly (readValue? (gap ++ (cs ++ rest))) = some (j, rest)

/-- The first character of a value. -/
theorem Writes.head (written : Writes j cs) :
    ∃ c more, cs = c :: more ∧ isSpace c = false ∧ c ≠ ']' := by
  cases written with
  | null | yes | no => exact ⟨_, _, rfl, by decide⟩
  | number literal =>
    obtain ⟨c, more, same, number⟩ := literal.head
    refine ⟨c, more, same, isSpace_of_number number, ?_⟩
    rintro rfl
    exact absurd number (by decide)
  | string quoted =>
    obtain ⟨body, same, -⟩ := quoted.readText?
    exact ⟨_, _, same, by decide⟩
  | array | object => exact ⟨_, _, rfl, by decide⟩

theorem isRead_number (literal : WritesNumber cs) : IsRead (.number (String.ofList cs)) cs := by
  intro gap rest blank ends
  obtain ⟨c, more, same, number⟩ := literal.head
  have read := literal.readNumber? ends
  rw [plainly_readValue?]
  rw [same, List.cons_append] at read ⊢
  rw [skipSpaces_gap blank (isSpace_of_number number), valueFrom_number number, read]

theorem isRead_string {text : Option String} (quoted : WritesText text cs) :
    IsRead (.string text) cs := by
  intro gap rest blank ends
  obtain ⟨body, rfl, read⟩ := quoted.readText?
  rw [plainly_readValue?, List.cons_append, skipSpaces_gap blank (by decide), valueFrom, read]
  rfl

/-! ## Lists

Arrays and objects are read by the same shape of recursion, with one function for a part and one for
the rest of the list. So what a list needs is stated once, for any such pair of functions.
-/

section

variable {α β : Type} {close : Char} {rest : List Char}

/-- A list of parts is read if each part is read up to the blanks behind it. -/
theorem read_separated {one : List Char → Option (α × List Char)}
    {all : List Char → Option (List α × List Char)} {parts : List β} {value : β → α}
    {whole behind : β → List Char}
    (unfolds : ∀ cs, all cs = (one cs).bind fun p => listFrom close all p.1 (skipSpaces p.2))
    (closes : close = ']' ∨ close = '\x7d') (blank : Gap gap) (nonempty : parts ≠ [])
    (gaps : ∀ b ∈ parts, Gap (behind b))
    (read : ∀ b ∈ parts, ∀ rest, EndsNumber rest →
      one (whole b ++ rest) = some (value b, behind b ++ rest)) :
    all (separated (parts.map whole) ++ (gap ++ close :: rest)) = some (parts.map value, rest) := by
  have shown : isSpace close = false := by rcases closes with rfl | rfl <;> rfl
  have noComma : ',' ≠ close := by rcases closes with rfl | rfl <;> decide
  have closing : EndsNumber (gap ++ close :: rest) := by
    apply endsNumber_gap blank
    rcases closes with rfl | rfl <;> exact endsNumber_cons (by decide) _
  -- behind a part, past its blanks, stands either the bracket or a comma and the other parts
  induction parts with
  | nil => exact absurd rfl nonempty
  | cons b parts ih =>
    have first := read b List.mem_cons_self
    have behindFirst := gaps b List.mem_cons_self
    rw [unfolds]
    cases parts with
    | nil => -- the last part, behind which stands the bracket
      rw [List.map_singleton, separated, first _ closing, Option.bind_some,
        skipSpaces_append behindFirst, skipSpaces_gap blank shown, listFrom_close]
      rfl
    | cons next parts => -- a part with others behind it, so that a comma follows
      have later := ih (List.cons_ne_nil _ _) (fun b mem => gaps b (List.mem_cons_of_mem _ mem))
        fun b mem => read b (List.mem_cons_of_mem _ mem)
      have comma : EndsNumber
          (',' :: (separated ((next :: parts).map whole) ++ (gap ++ close :: rest))) :=
        endsNumber_cons (by decide) _
      rw [List.map_cons, List.map_cons, separated, List.append_assoc, List.cons_append,
        ← List.map_cons, first _ comma, Option.bind_some, skipSpaces_gap behindFirst (by decide),
        listFrom_comma noComma, later]
      rfl

/-- Behind blanks, the characters begin with this one. -/
def Shows (c : Char) (cs : List Char) : Prop :=
  isSpace c = false ∧ ∃ gap tail, Gap gap ∧ cs = gap ++ c :: tail

/-- A list shows what its first part shows. -/
theorem skipSpaces_separated {c : Char} {first : List Char} (shows : Shows c first)
    (more : List (List Char)) (rest : List Char) :
    ∃ tail, skipSpaces (separated (first :: more) ++ rest) = c :: tail := by
  obtain ⟨shown, gap, tail, blank, rfl⟩ := shows
  cases more with
  | nil =>
    rw [separated, List.append_assoc, List.cons_append, skipSpaces_gap blank shown]
    exact ⟨_, rfl⟩
  | cons next more =>
    rw [separated, List.append_assoc, List.append_assoc, List.cons_append,
      skipSpaces_gap blank shown]
    exact ⟨_, rfl⟩

/-- A list between brackets is empty, or none of its parts looks like the closing bracket. -/
theorem emptyOr_separated {empty a : α} {full : Option (α × List Char)}
    {parts : List (List Char)} (closes : isSpace close = false) (blank : Gap gap)
    (shows : ∀ cs ∈ parts, ∃ c, c ≠ close ∧ Shows c cs) (nothing : parts = [] → empty = a)
    (something : parts ≠ [] → full = some (a, rest)) :
    emptyOr close empty full (skipSpaces (separated parts ++ (gap ++ close :: rest))) =
      some (a, rest) := by
  cases parts with
  | nil =>
    rw [separated, List.nil_append, skipSpaces_gap blank closes, emptyOr_close, nothing rfl]
  | cons first more =>
    obtain ⟨c, other, shown⟩ := shows first List.mem_cons_self
    obtain ⟨tail, front⟩ := skipSpaces_separated shown more (gap ++ close :: rest)
    rw [front, emptyOr_of_ne]
    · exact something (List.cons_ne_nil _ _)
    · intro left same
      exact other (List.cons.inj same).1

end

/-! ## Arrays

The parts of an array are pieces, and each of them begins with a value.
-/

/-- A piece is read up to the blanks behind it. -/
theorem Piece.readValue? {p : Piece} (read : IsRead p.value p.text) (ends : EndsNumber rest) :
    plainly (readValue? (p.whole ++ rest)) = some (p.value, p.behind ++ rest) := by
  rw [whole, List.append_assoc, List.append_assoc]
  exact read p.before _ p.gap_before (endsNumber_gap p.gap_behind ends)

theorem Piece.shows {p : Piece} (written : Writes p.value p.text) :
    ∃ c, c ≠ ']' ∧ Shows c p.whole := by
  obtain ⟨c, more, same, shown, other⟩ := written.head
  refine ⟨c, other, shown, p.before, more ++ p.behind, p.gap_before, ?_⟩
  rw [whole, same, List.cons_append]

theorem isRead_array {items : List Piece} (blank : Gap gap)
    (each : ∀ p ∈ items, Writes p.value p.text) (read : ∀ p ∈ items, IsRead p.value p.text) :
    IsRead (.array (items.map (·.value)))
      ('[' :: (separated (items.map (·.whole)) ++ (gap ++ [']']))) := by
  intro before rest blank' ends
  rw [plainly_readValue?, List.cons_append, skipSpaces_gap blank' (by decide), List.append_assoc,
    List.append_assoc, List.singleton_append, valueFrom]
  apply emptyOr_separated rfl blank
  · exact List.forall_mem_map.mpr fun p mem => Piece.shows (each p mem)
  · intro nothing
    rw [List.map_eq_nil_iff.mp nothing, List.map_nil]
  · intro something
    have nonempty : items ≠ [] := fun nothing => something (List.map_eq_nil_iff.mpr nothing)
    rw [read_separated plainly_readItems? (.inl rfl) blank nonempty (fun p _ => p.gap_behind)
      fun p mem _ => p.readValue? (read p mem)]
    rfl

/-! ## Objects

The parts of an object are members. Each begins with the quote of its key, and its value is a piece.
-/

/-- A member is read up to the blanks behind its value. -/
theorem MemberPiece.memberFrom {m : MemberPiece} (read : IsRead m.piece.value m.piece.text)
    (ends : EndsNumber rest) :
    memberFrom (skipSpaces (m.whole ++ rest)) = some (m.member, m.piece.behind ++ rest) := by
  obtain ⟨body, same, name⟩ := m.written.readText?
  have whole : m.whole ++ rest =
      m.before ++ '"' :: (body ++ (m.behind ++ ':' :: (m.piece.whole ++ rest))) := by
    simp [MemberPiece.whole, same]
  rw [whole, skipSpaces_gap m.gap_before (by decide), Json.memberFrom, name]
  dsimp only [Option.bind_some]
  rw [skipSpaces_gap m.gap_behind (by decide), memberAfter, m.piece.readValue? read ends]
  rfl

theorem MemberPiece.shows (m : MemberPiece) : Shows '"' m.whole := by
  obtain ⟨body, same, -⟩ := m.written.readText?
  refine ⟨rfl, m.before, body ++ (m.behind ++ ':' :: m.piece.whole), m.gap_before, ?_⟩
  rw [whole, same, List.cons_append]

theorem isRead_object {members : List MemberPiece} (blank : Gap gap)
    (read : ∀ m ∈ members, IsRead m.piece.value m.piece.text) :
    IsRead (.object (members.map (·.member)))
      ('\x7b' :: (separated (members.map (·.whole)) ++ (gap ++ ['\x7d']))) := by
  intro before rest blank' ends
  rw [plainly_readValue?, List.cons_append, skipSpaces_gap blank' (by decide), List.append_assoc,
    List.append_assoc, List.singleton_append, valueFrom]
  apply emptyOr_separated rfl blank
  · exact List.forall_mem_map.mpr fun m _ => ⟨'"', by decide, m.shows⟩
  · intro nothing
    rw [List.map_eq_nil_iff.mp nothing, List.map_nil]
  · intro something
    have nonempty : members ≠ [] := fun nothing => something (List.map_eq_nil_iff.mpr nothing)
    rw [read_separated plainly_readMembers? (.inr rfl) blank nonempty
      (fun m _ => m.piece.gap_behind) fun m mem _ => m.memberFrom (read m mem)]
    rfl

/-! ## All values

The hypotheses of the induction are those of the parts, and each of its cases has been settled on
its own.
-/

/-- What follows the grammar is read as its value, wherever it stands. -/
theorem Writes.isRead (written : Writes j cs) : IsRead j cs := by
  induction written with
  | null | yes | no => -- the three words are read as they stand
    intro gap rest blank ends
    rw [plainly_readValue?, skipSpaces_append blank]
    rfl
  | number literal => exact isRead_number literal
  | string quoted => exact isRead_string quoted
  | array blank each ih => exact isRead_array blank each ih
  | object blank _ ih => exact isRead_object blank ih

/-- A document is read as its value, and there is nothing behind it. -/
theorem WritesDocument.read? {s : String} (written : WritesDocument j s) :
    read? s = some (j, true) := by
  obtain ⟨p, rfl, written, same⟩ := written
  have read := p.readValue? written.isRead endsNumber_nil
  rw [List.append_nil, List.append_nil] at read
  have nothing : skipSpaces p.behind = [] := by
    rw [← List.append_nil p.behind, skipSpaces_append p.gap_behind]
    rfl
  rw [read?_eq, same, read, Option.map_some]
  simp only [nothing, decide_true]

end BrushScript.Json
