import BrushScript.Proofs.Json.Number

/-!
# The reader of JSON without lengths

A reader returns what is left of a text with a proof that it is shorter. Here it is brought into a
form that does not speak of lengths: a value by its first character (`plainly_readValue?`), a list
by its first item or member and what follows that (`plainly_readItems?`, `plainly_readMembers?`).

The proofs of being shorter are what makes the reader end, and they are part of what it returns. In
a statement about what is read they only stand in the way, as two results with the same text left
would still have to carry the same proof. `plainly` drops them. After this module the reader itself
is not unfolded any more.
-/

namespace BrushScript.Json

variable {α : Type} {cs left : List Char}

/-! ## The reader without lengths

Each function follows one of the readers, with the readers of the parts inside it as they are. A
list between brackets is read by two of them: `emptyOr` tells whether there is anything in it, and
`listFrom` goes on behind each part.
-/

/-- What follows an opening bracket: the closing one, or a list that is not empty. -/
def emptyOr (close : Char) (empty : α) (full : Option (α × List Char)) :
    List Char → Option (α × List Char)
  | c :: left => if c = close then some (empty, left) else full
  | [] => full

theorem emptyOr_close (close : Char) (empty : α) (full : Option (α × List Char))
    (left : List Char) : emptyOr close empty full (close :: left) = some (empty, left) :=
  if_pos rfl

theorem emptyOr_of_ne {close : Char} (empty : α) (full : Option (α × List Char))
    (notClosed : ∀ left, cs ≠ close :: left) : emptyOr close empty full cs = full := by
  cases cs with
  | nil => rfl
  | cons c left => exact if_neg fun (same : c = close) => notClosed left (same ▸ rfl)

/-- What follows a value in a list: the closing bracket, or a comma and more of the list. -/
def listFrom (close : Char) (more : List Char → Option (List α × List Char)) (a : α) :
    List Char → Option (List α × List Char)
  | [] => none
  | c :: left =>
    if c = close then some ([a], left)
    else if c = ',' then (more left).map fun (items, left) => (a :: items, left)
    else none

section

variable {close : Char} {more : List Char → Option (List α × List Char)} {a : α}

theorem listFrom_close : listFrom close more a (close :: left) = some ([a], left) := if_pos rfl

theorem listFrom_comma (other : ',' ≠ close) : listFrom close more a (',' :: left) =
    (more left).map fun (items, left) => (a :: items, left) := by
  rw [listFrom, if_neg other, if_pos rfl]

theorem listFrom_of_ne (notClosed : ∀ left, cs ≠ close :: left)
    (noComma : ∀ left, cs ≠ ',' :: left) : listFrom close more a cs = none := by
  cases cs with
  | nil => rfl
  | cons c left =>
    rw [listFrom, if_neg fun (same : c = close) => notClosed left (same ▸ rfl),
      if_neg fun (same : c = ',') => noComma left (same ▸ rfl)]

end

/-- A value by its first character. -/
def valueFrom : List Char → Option (Json × List Char)
  | [] => none
  | '"' :: rest => (plainly (readText? rest)).map fun (text, left) => (.string text, left)
  | '[' :: rest =>
    let full := (plainly (readItems? rest)).map fun (items, left) => (Json.array items, left)
    emptyOr ']' (.array []) full (skipSpaces rest)
  | '\x7b' :: rest =>
    let full :=
      (plainly (readMembers? rest)).map fun (members, left) => (Json.object members, left)
    emptyOr '\x7d' (.object []) full (skipSpaces rest)
  | c :: rest =>
    plainly <|
      if c = 'n' then readWord? "null".toList .null (c :: rest)
      else if c = 't' then readWord? "true".toList (.boolean true) (c :: rest)
      else if c = 'f' then readWord? "false".toList (.boolean false) (c :: rest)
      else readNumber? (c :: rest)

theorem plainly_readValue? (cs : List Char) :
    plainly (readValue? cs) = valueFrom (skipSpaces cs) := by
  -- the left side holds proofs about the text, so only the right side is rewritten
  rw [readValue?]
  split
  · -- nothing is left
    next same =>
    conv => rhs; rw [same]
    rfl
  · -- a text
    next rest same =>
    conv => rhs; rw [same, valueFrom]
    cases readText? rest <;> rfl
  · -- an array
    next rest same =>
    conv => rhs; rw [same, valueFrom]
    split
    · next closed =>
      conv => rhs; rw [closed, emptyOr_close]
      rfl
    · next other =>
      conv => rhs; rw [emptyOr_of_ne _ _ other]
      cases readItems? rest <;> rfl
  · -- an object
    next rest same =>
    conv => rhs; rw [same, valueFrom]
    split
    · next closed =>
      conv => rhs; rw [closed, emptyOr_close]
      rfl
    · next other =>
      conv => rhs; rw [emptyOr_of_ne _ _ other]
      cases readMembers? rest <;> rfl
  · -- one of the three words, or a number
    next c rest noText noArray noObject same =>
    conv => rhs; rw [same, valueFrom.eq_5 _ _ noText noArray noObject]
    dsimp only
    split <;> next found => rw [found]; rfl

theorem plainly_readItems? (cs : List Char) :
    plainly (readItems? cs) = (plainly (readValue? cs)).bind fun (item, rest) =>
      listFrom ']' (fun next => plainly (readItems? next)) item (skipSpaces rest) := by
  rw [readItems?]
  cases readValue? cs with
  | none => rfl
  | some found =>
    obtain ⟨item, ⟨rest, shorter⟩⟩ := found
    change _ = listFrom ']' _ item (skipSpaces rest)
    dsimp only
    split
    · -- the closing bracket
      next same =>
      conv => rhs; rw [same]
      rfl
    · -- a comma
      next next same =>
      conv => rhs; rw [same, listFrom_comma (by decide)]
      cases readItems? next <;> rfl
    · -- neither of the two
      next noClose noComma =>
      conv => rhs; rw [listFrom_of_ne noClose noComma]
      rfl

/-- A member from behind its key. -/
def memberAfter (key : Option String) :
    List Char → Option ((Option String × Json) × List Char)
  | ':' :: rest => (plainly (readValue? rest)).map fun (value, left) => ((key, value), left)
  | _ => none

/-- A member by its first character. -/
def memberFrom : List Char → Option ((Option String × Json) × List Char)
  | '"' :: rest =>
    (plainly (readText? rest)).bind fun (key, left) => memberAfter key (skipSpaces left)
  | _ => none

theorem plainly_readMembers? (cs : List Char) :
    plainly (readMembers? cs) = (memberFrom (skipSpaces cs)).bind fun (member, rest) =>
      listFrom '\x7d' (fun next => plainly (readMembers? next)) member (skipSpaces rest) := by
  rw [readMembers?]
  split
  · -- a key
    next rest same =>
    conv => rhs; rw [same, memberFrom]
    cases readText? rest with
    | none => rfl
    | some found =>
      obtain ⟨key, ⟨left, shorter⟩⟩ := found
      change _ = (memberAfter key (skipSpaces left)).bind _
      dsimp only
      split
      · next next same =>
        conv => rhs; rw [same, memberAfter]
        cases readValue? next with
        | none => rfl
        | some found =>
          obtain ⟨value, ⟨rest, shorter⟩⟩ := found
          change _ = listFrom '\x7d' _ (key, value) (skipSpaces rest)
          dsimp only
          split
          · next same =>
            conv => rhs; rw [same]
            rfl
          · next next same =>
            conv => rhs; rw [same, listFrom_comma (by decide)]
            cases readMembers? next <;> rfl
          · next noClose noComma =>
            conv => rhs; rw [listFrom_of_ne noClose noComma]
            rfl
      · next noColon =>
        conv => rhs; rw [memberAfter.eq_2 _ _ noColon]
        rfl
  · -- no key
    next other =>
    conv => rhs; rw [memberFrom.eq_2 _ other]
    rfl

/-! ## Blanks

What a value begins with is no blank, and what a number begins with no other value begins with.
-/

theorem skipSpaces_append {gap : List Char} (blank : ∀ c ∈ gap, isSpace c = true)
    (cs : List Char) : skipSpaces (gap ++ cs) = skipSpaces cs :=
  List.dropWhile_append_of_pos blank

theorem skipSpaces_cons {c : Char} (shown : isSpace c = false) (cs : List Char) :
    skipSpaces (c :: cs) = c :: cs :=
  List.dropWhile_cons_of_neg (by rw [shown]; exact nofun)

theorem isSpace_of_number {c : Char} (number : c = '-' ∨ c.isDigit = true) :
    isSpace c = false := by
  rw [Bool.eq_false_iff]
  intro space
  simp only [isSpace, Bool.or_eq_true, decide_eq_true_eq] at space
  obtain ((rfl | rfl) | rfl) | rfl := space <;> exact absurd number (by decide)

/-- A number is all that starts like one. -/
theorem valueFrom_number {c : Char} (number : c = '-' ∨ c.isDigit = true) (rest : List Char) :
    valueFrom (c :: rest) = plainly (readNumber? (c :: rest)) := by
  have other (d : Char) (no : ¬ (d = '-' ∨ d.isDigit = true)) : c ≠ d := by
    rintro rfl
    exact no number
  rw [valueFrom, if_neg (other 'n' (by decide)), if_neg (other 't' (by decide)),
    if_neg (other 'f' (by decide))]
  · exact other '"' (by decide)
  · exact other '[' (by decide)
  · exact other '\x7b' (by decide)

/-! ## Documents

A document is a value, and behind it nothing but blanks.
-/

theorem read?_eq (s : String) : read? s =
    (plainly (readValue? s.toList)).map fun (value, rest) => (value, skipSpaces rest = []) := by
  rw [read?]
  cases readValue? s.toList <;> rfl

end BrushScript.Json
