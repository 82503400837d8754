import BrushScript.Json.Reader

/-!
# Texts in JSON are read

`WritesText` says how a text may be written between quotes: characters as they are or escaped by a
letter, and UTF-16 units by their digits. Whatever follows that grammar is read as the text, and the
reading stops behind the closing quote (`WritesText.readText?`). What is written for a text follows
it (`writesText_quote`), whatever its characters are. A control below U+0020 may be written as a
UTF-16 unit, which is the same character.

Between the quotes stands a list of parts, each of them a character or a unit. A part is read by
itself, since its first characters say how long it is (`WritesPart.readPart?`), and so the parts are
read one by one. Only then are the units put together, two of them where they are the halves of a
surrogate pair. So a text may be written such that it is read, up to its closing quote, and yet has
no characters: half a pair has none. For the rest of the document it is still a text.
-/

namespace BrushScript.Json

/-- What was read and what is left, without the proof that it is shorter. -/
def plainly {α : Type} {cs : List Char} : Read α cs → Option (α × List Char) :=
  Option.map fun r => (r.1, r.2.val)

theorem plainly_eq_some_iff {α : Type} {cs rest : List Char} {r : Read α cs} {a : α} :
    plainly r = some (a, rest) ↔ ∃ shorter, r = some (a, ⟨rest, shorter⟩) := by
  unfold plainly
  rw [Option.map_eq_some_iff]
  constructor
  · rintro ⟨⟨a', ⟨rest', shorter⟩⟩, same, eq⟩
    cases eq
    exact ⟨shorter, same⟩
  · rintro ⟨shorter, same⟩
    exact ⟨_, same, rfl⟩

/-! ## The grammar

The rules for one part, for parts in a row and for a text with its quotes. What the text means is
given by `assemble?`, which is the reader's own way from parts to characters.
-/

/-- The ways to write a part of a text. -/
inductive WritesPart : Part → List Char → Prop
  | shown {c : Char} (notQuote : c ≠ '"') (notBackslash : c ≠ '\\') (visible : ¬ c.toNat < 0x20) :
    WritesPart (.char c) [c]
  | escape {letter c : Char} (known : unescape? letter = some c) :
    WritesPart (.char c) ['\\', letter]
  | unit {a b c d : Char} {n : Nat} (digits : hex4? a b c d = some n) :
    WritesPart (.unit n) ['\\', 'u', a, b, c, d]

/-- The ways to write one part after the other. -/
inductive WritesParts : List Part → List Char → Prop
  | nil : WritesParts [] []
  | cons {part : Part} {parts : List Part} {cs ds : List Char} (first : WritesPart part cs)
      (later : WritesParts parts ds) : WritesParts (part :: parts) (cs ++ ds)

/-- The ways to write a text with its quotes; one with half of a surrogate pair has no reading. -/
inductive WritesText : Option String → List Char → Prop
  | quoted {parts : List Part} {cs : List Char} (body : WritesParts parts cs) :
    WritesText ((assemble? parts).map String.ofList) ('"' :: (cs ++ ['"']))

variable {cs ds rest : List Char} {part : Part} {parts : List Part}

/-! ## One part

A character stands for itself unless it is a quote, a backslash or a control. Behind a backslash
stands a letter, and the letter `u` with four digits is a unit.
-/

/-- A part is read, whatever comes behind it. -/
theorem WritesPart.readPart? (written : WritesPart part cs) (rest : List Char) :
    readPart? (cs ++ rest) = some (part, rest) := by
  cases written with
  | @shown c notQuote notBackslash visible =>
    -- the first character is no backslash, so it is not an escape
    rw [List.singleton_append]
    unfold Json.readPart?
    split
    · next same => exact absurd (List.cons.inj same).1 notBackslash
    · next same => exact absurd (List.cons.inj same).1 notBackslash
    · next same => exact absurd (List.cons.inj same).1 notBackslash
    · next same =>
      cases same
      rw [if_neg visible]
    · next same => cases same
  | @escape letter c known => -- the letter is none of a unit
    have notUnit : letter ≠ 'u' := by
      rintro rfl
      cases known
    change Json.readPart? ('\\' :: letter :: rest) = _
    unfold Json.readPart?
    split
    · next same => exact absurd (List.cons.inj (List.cons.inj same).2).1 notUnit
    · next same =>
      cases same
      rw [known]
      rfl
    · next same => cases same
    · next noLetter _ same =>
      cases same
      exact (noLetter _ _ rfl rfl).elim
    · next same => cases same
  | unit digits =>
    show (hex4? _ _ _ _).map _ = _
    rw [digits]
    rfl

/-- A part does not begin like the end of the text. -/
theorem WritesPart.head (written : WritesPart part cs) : ∃ c more, cs = c :: more ∧ c ≠ '"' := by
  cases written with
  | shown notQuote => exact ⟨_, _, rfl, notQuote⟩
  | escape | unit => exact ⟨_, _, rfl, by decide⟩

/-! ## All parts

Parts are read up to the closing quote, with which no part begins.
-/

theorem plainly_readParts?_quote (rest : List Char) :
    plainly (readParts? ('"' :: rest)) = some ([], rest) := by
  rw [readParts?]
  rfl

theorem plainly_readParts?_cons {c : Char} (other : c ≠ '"')
    (read : readPart? (c :: cs) = some (part, rest)) :
    plainly (readParts? (c :: cs)) =
      (plainly (readParts? rest)).map fun r => (part :: r.1, r.2) := by
  rw [readParts?]
  · split
    · next none => cases none.symm.trans read
    · next part' rest' some =>
      cases some.symm.trans read
      cases readParts? rest <;> rfl
  · exact other

theorem WritesParts.readParts? (written : WritesParts parts cs) (rest : List Char) :
    plainly (readParts? (cs ++ '"' :: rest)) = some (parts, rest) := by
  induction written with
  | nil => exact plainly_readParts?_quote rest
  | @cons part cs parts ds first later ih =>
    obtain ⟨c, more, same, other⟩ := first.head
    have read := first.readPart? (ds ++ '"' :: rest)
    rw [List.append_assoc]
    rw [same, List.cons_append] at read ⊢
    rw [plainly_readParts?_cons other read, ih]
    rfl

/-- A text is read from behind its opening quote. -/
theorem WritesText.readText? {text : Option String} (written : WritesText text cs) :
    ∃ body, cs = '"' :: body ∧ ∀ rest, plainly (readText? (body ++ rest)) = some (text, rest) := by
  obtain ⟨body⟩ := written
  refine ⟨_, rfl, fun rest => ?_⟩
  rw [List.append_assoc, List.singleton_append]
  obtain ⟨shorter, read⟩ := plainly_eq_some_iff.mp (body.readParts? rest)
  rw [Json.readText?, read]
  rfl

/-! ## What is written

A text is written character by character: seven of them by an escape with a letter, other controls
as units and the rest as they are. What is read for these units are the characters that were
written.
-/

/-- The character is written by the digits of its code point. -/
def isByUnit (c : Char) : Bool :=
  c.toNat < 0x20 && !(['\x08', '\x0c', '\n', '\r', '\t'].contains c)

/-- What is read for a character. -/
def partOf (c : Char) : Part := if isByUnit c then .unit c.toNat else .char c

theorem hex4?_digits {n : Nat} (small : n < 0x20) :
    hex4? '0' '0' (Text.Hexadecimal.digit (n / 16)) (Text.Hexadecimal.digit (n % 16)) = some n := by
  unfold hex4?
  rw [Text.Hexadecimal.value?_digit (by omega), Text.Hexadecimal.value?_digit (by omega)]
  show some (((0 * 16 + 0) * 16 + n / 16) * 16 + n % 16) = some n
  congr 1
  omega

theorem writesPart_escapeChar (c : Char) : WritesPart (partOf c) (escapeChar c) := by
  unfold escapeChar
  -- the characters with an escape of their own
  iterate 7
    split
    · next same =>
      subst same
      exact .escape rfl
  next notQuote notBackslash notBack notFeed notLine notReturn notTab =>
  split
  · next control =>
    have byUnit : isByUnit c = true := by
      simp [isByUnit, control, notBack, notFeed, notLine, notReturn, notTab]
    rw [partOf, if_pos byUnit]
    exact .unit (hex4?_digits control)
  · next shown =>
    have itself : isByUnit c = false := by simp [isByUnit, shown]
    rw [partOf, itself]
    exact .shown notQuote notBackslash shown

theorem writesParts_flatMap (s : List Char) :
    WritesParts (s.map partOf) (s.flatMap escapeChar) := by
  induction s with
  | nil => exact .nil
  | cons c s ih =>
    rw [List.map_cons, List.flatMap_cons]
    exact .cons (writesPart_escapeChar c) ih

/-- A unit that is no surrogate is a character by itself. -/
theorem assemble?_unit {n : Nat} (small : n < 0x20) (parts : List Part) :
    assemble? (.unit n :: parts) = (assemble? parts).map (Char.ofNat n :: ·) := by
  have notHigh : isHighSurrogate n = false := by
    rw [isHighSurrogate, Bool.and_eq_false_iff, decide_eq_false_iff_not]
    omega
  have notLow : isLowSurrogate n = false := by
    rw [isLowSurrogate, Bool.and_eq_false_iff, decide_eq_false_iff_not]
    omega
  match parts with
  | [] | .char _ :: _ => simp [assemble?, notHigh, notLow]
  | .unit m :: parts => simp [assemble?, notHigh, notLow]

theorem assemble?_partOf (s : List Char) : assemble? (s.map partOf) = some s := by
  induction s with
  | nil => rfl
  | cons c s ih =>
    rw [List.map_cons, partOf]
    split
    · -- written as a unit
      next byUnit =>
      have small : c.toNat < 0x20 := by simpa using (Bool.and_eq_true_iff.mp byUnit).1
      rw [assemble?_unit small, ih, Char.ofNat_toNat]
      rfl
    · rw [assemble?, ih]
      rfl

/-- What is written for a text follows the grammar. -/
theorem writesText_quote (s : String) : WritesText (some s) (quote s) := by
  have written := WritesText.quoted (writesParts_flatMap s.toList)
  rwa [assemble?_partOf, Option.map_some, String.ofList_toList] at written

end BrushScript.Json
