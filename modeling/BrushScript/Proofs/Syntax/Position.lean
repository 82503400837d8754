import BrushScript.Syntax.Token.Lexer

/-!
# Places of a script by the text before them

A line break is `\n`, `\r\n` or a `\r` alone (`IsLineBreak`). `lineBreaks` counts those of a text
and `sinceBreak` the characters behind the last one, so that `Position.after` is the place behind a
text whatever way led there. Reading on from it leads behind the longer text, over text without line
breaks (`advance_after`) as over a line break (`nextLine_after`), as long as no line break is cut in
two (`Uncut`).

The two counts are natural numbers of any size, and the line and the column of a place are what 32
bits keep of them. Since adding is done without a look at the size, the place behind two texts is
reached in one step or in two, also where a number has gone round. Only where a place is said to be
the line and the column that a reader would count (`Marks`) those have to be small enough, and
`marks_stretch` shows that they are in a script of less than 2^32 - 1 characters.
-/

namespace BrushScript.Syntax.Lexer

variable {before text rest : List Char}

/-! ## Line breaks

Whether a character ends a line is seen from its neighbours only: a line feed behind a carriage
return belongs to it.
-/

/-- A character of line breaks. -/
def isBreak (c : Char) : Bool := c == '\n' || c == '\r'

/-- Text within a line. -/
def Flat (text : List Char) : Prop := ∀ c ∈ text, isBreak c = false

/-- A whole line break between some text and some other. -/
inductive IsLineBreak (before : List Char) : (text rest : List Char) → Prop
  | lineFeed {rest : List Char} (alone : before.getLast? ≠ some '\r') :
      IsLineBreak before ['\n'] rest
  | both {rest : List Char} : IsLineBreak before ['\r', '\n'] rest
  | carriageReturn {rest : List Char} (alone : rest.head? ≠ some '\n') :
      IsLineBreak before ['\r'] rest

/-- No line break is cut in two between some text and the text behind it. -/
def Uncut (before rest : List Char) : Prop :=
  before.getLast? = some '\r' → rest.head? ≠ some '\n'

theorem flat_nil : Flat [] := fun _ mem => absurd mem List.not_mem_nil

theorem flat_cons {c : Char} (first : isBreak c = false) (flat : Flat text) : Flat (c :: text) :=
  List.forall_mem_cons.mpr ⟨first, flat⟩

theorem Flat.uncut (flat : Flat text) : Uncut before text := by
  intro _ first
  cases flat '\n' (List.mem_of_head? first)

/-- Behind text within a line nothing is cut. -/
theorem Flat.uncut_append (flat : Flat text) (nonempty : text ≠ []) :
    Uncut (before ++ text) rest := by
  intro last
  rw [List.getLast?_append, List.getLast?_eq_some_getLast nonempty, Option.some_or,
    ← List.getLast?_eq_some_getLast nonempty] at last
  cases flat '\r' (List.mem_of_getLast? last)

namespace IsLineBreak

theorem ne_nil (h : IsLineBreak before text rest) : text ≠ [] := by
  cases h <;> exact nofun

theorem uncut (h : IsLineBreak before text rest) : Uncut before text := by
  intro last first
  cases h with
  | lineFeed alone => exact alone last
  | both | carriageReturn => cases first

/-- Behind a whole line break nothing is cut. -/
theorem uncut_append (h : IsLineBreak before text rest) : Uncut (before ++ text) rest := by
  intro last
  cases h with
  | lineFeed | both => simp at last
  | carriageReturn alone => exact alone

/-- A line break does not begin as text within a line does. -/
theorem isBreak_head (h : IsLineBreak before text rest) {c : Char} (first : text.head? = some c) :
    isBreak c = true := by
  cases h <;> cases first <;> rfl

end IsLineBreak

/-! ## Counting

The count of two texts together is the sum of the counts, if no line break lies across the border.
-/

/-- The line breaks of a text: its line feeds, and the carriage returns that stand before none. -/
def lineBreaks : List Char → Nat
  | [] => 0
  | c :: rest =>
    if c = '\n' ∨ c = '\r' ∧ rest.head? ≠ some '\n' then lineBreaks rest + 1 else lineBreaks rest

/-- The characters behind the last line break of a text. -/
def sinceBreak (text : List Char) : Nat := (text.reverse.takeWhile fun c => !isBreak c).length

theorem lineBreaks_append (uncut : Uncut before text) :
    lineBreaks (before ++ text) = lineBreaks before + lineBreaks text := by
  -- on the text in front, whose last character meets the other text
  induction before with
  | nil => exact (Nat.zero_add _).symm
  | cons c before ih =>
    cases before with
    | nil =>
      -- the next character decides whether a carriage return stands alone
      by_cases cr : c = '\r'
      · subst cr
        have alone : text.head? ≠ some '\n' := uncut rfl
        simp [lineBreaks, alone, Nat.add_comm]
      · simp only [List.cons_append, List.nil_append, lineBreaks, cr, false_and, or_false]
        split <;> omega
    | cons d before =>
      have later := ih (by simpa [Uncut] using uncut)
      change (if c = '\n' ∨ c = '\r' ∧ some d ≠ some '\n' then
            lineBreaks (d :: before ++ text) + 1
          else lineBreaks (d :: before ++ text)) =
        (if c = '\n' ∨ c = '\r' ∧ some d ≠ some '\n' then lineBreaks (d :: before) + 1
          else lineBreaks (d :: before)) + lineBreaks text
      rw [later]
      split <;> omega

theorem lineBreaks_flat (flat : Flat text) : lineBreaks text = 0 := by
  induction text with
  | nil => rfl
  | cons c text ih =>
    obtain ⟨first, later⟩ := List.forall_mem_cons.mp flat
    simp only [isBreak, Bool.or_eq_false_iff, beq_eq_false_iff_ne] at first
    rw [lineBreaks, ih later]
    simp [first.1, first.2]

theorem lineBreaks_lineBreak (h : IsLineBreak before text rest) : lineBreaks text = 1 := by
  cases h <;> rfl

theorem lineBreaks_le_length (text : List Char) : lineBreaks text ≤ text.length := by
  induction text with
  | nil => exact Nat.le_refl 0
  | cons c text ih =>
    rw [lineBreaks, List.length_cons]
    split <;> omega

theorem sinceBreak_append_flat (before : List Char) (flat : Flat text) :
    sinceBreak (before ++ text) = sinceBreak before + text.length := by
  have inLine (c : Char) (mem : c ∈ text.reverse) : (!isBreak c) = true := by
    rw [flat c (List.mem_reverse.mp mem)]
    rfl
  rw [sinceBreak, List.reverse_append, List.takeWhile_append_of_pos inLine, List.length_append,
    List.length_reverse, Nat.add_comm]
  rfl

theorem sinceBreak_append_lineBreak (h : IsLineBreak before text rest) :
    sinceBreak (before ++ text) = 0 := by
  cases h <;> simp [sinceBreak, isBreak]

theorem sinceBreak_le_length (text : List Char) : sinceBreak text ≤ text.length := by
  rw [← List.length_reverse]
  exact (List.takeWhile_sublist _).length_le

/-! ## Bytes

A place counts the bytes of UTF-8 before it.
-/

namespace Position

theorem byteLength_append (s t : List Char) :
    byteLength (s ++ t) = byteLength s + byteLength t := by
  induction s with
  | nil => exact (Nat.zero_add _).symm
  | cons c s ih => rw [List.cons_append, byteLength, byteLength, ih, Nat.add_assoc]

theorem byteLength_pos {text : List Char} (nonempty : text ≠ []) : 0 < byteLength text := by
  cases text with
  | nil => exact absurd rfl nonempty
  | cons c text =>
    rw [byteLength]
    exact Nat.lt_of_lt_of_le c.utf8Size_pos (Nat.le_add_right ..)

theorem byteLength_ofList (text : List Char) :
    byteLength text = (String.ofList text).utf8ByteSize := by
  induction text with
  | nil => rfl
  | cons c text ih => simp [byteLength, ih]

theorem byteLength_toList (s : String) : byteLength s.toList = s.utf8ByteSize := by
  rw [byteLength_ofList, String.ofList_toList]

/-! ## Places

What the lexer carries along is the place behind all that it has read.
-/

/-- The place behind a text. -/
def after (before : List Char) : Position :=
  ⟨byteLength before, 1 + lineBreaks before, 1 + sinceBreak before⟩

theorem advance_after (before : List Char) (flat : Flat text) :
    (after before).advance text = after (before ++ text) := by
  simp only [after, advance, byteLength_append, lineBreaks_append flat.uncut, lineBreaks_flat flat,
    sinceBreak_append_flat before flat, Nat.add_zero, UInt32.ofNat_add, UInt32.add_assoc]

theorem nextLine_after (h : IsLineBreak before text rest) :
    ((after before).advance text).nextLine = after (before ++ text) := by
  simp only [after, advance, nextLine, byteLength_append, lineBreaks_append h.uncut,
    lineBreaks_lineBreak h, sinceBreak_append_lineBreak h, UInt32.ofNat_add, UInt32.add_assoc]
  rfl

end Position

/-- The stretch of some text behind other text. -/
def stretch (before text : List Char) : Span where
  start := Position.byteLength before
  stop := Position.byteLength (before ++ text)
  line := 1 + lineBreaks before
  column := 1 + sinceBreak before

/-- A piece that is read behind some text has its stretch, also one that ends the line. -/
theorem spanTo_advance (before text : List Char) :
    (Position.after before).spanTo ((Position.after before).advance text) =
      stretch before text := by
  rw [stretch, Position.byteLength_append]
  rfl

/-! ## Places in a script

The line and the column of a stretch have 32 bits. They are the numbers that a reader counts as long
as those fit, for each place of a script on its own, and it takes a script of 2^32 - 1 characters or
more to have a place where one does not.
-/

/-- A place in a script is that of some text behind other text. Its line and its column are those of
the first character there, also as natural numbers wherever 32 bits can hold them. -/
structure Marks (source : String) (s : Span) (before text : List Char) : Prop where
  within : ∃ after, source.toList = before ++ text ++ after
  eq_stretch : s = stretch before text
  line_eq : 1 + lineBreaks before < 0x100000000 → s.line.toNat = 1 + lineBreaks before
  column_eq : 1 + sinceBreak before < 0x100000000 → s.column.toNat = 1 + sinceBreak before
  /-- Both numbers fit if the script is not too long. -/
  fits : source.length < 0xffffffff →
    1 + lineBreaks before < 0x100000000 ∧ 1 + sinceBreak before < 0x100000000

theorem toNat_one_add {n : Nat} (small : 1 + n < 0x100000000) :
    (1 + (n : UInt32) : UInt32).toNat = 1 + n := by
  have fits : n < UInt32.size := show n < 0x100000000 by omega
  rw [UInt32.toNat_add, UInt32.toNat_ofNat_of_lt' fits]
  exact Nat.mod_eq_of_lt small

theorem marks_stretch {source : String} {after : List Char}
    (whole : source.toList = before ++ text ++ after) :
    Marks source (stretch before text) before text := by
  have long : before.length ≤ source.length := by
    rw [← String.length_toList, whole, List.append_assoc, List.length_append]
    exact Nat.le_add_right ..
  have lines := lineBreaks_le_length before
  have columns := sinceBreak_le_length before
  exact ⟨⟨after, whole⟩, rfl, toNat_one_add, toNat_one_add, fun short => by omega⟩

end BrushScript.Syntax.Lexer
