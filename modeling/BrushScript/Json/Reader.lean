import BrushScript.Json
import BrushScript.Json.Text

/-!
# Reading JSON

A reader takes a value off the front of a text and returns what comes after it, which is shorter.
The grammar is that of the standard: nothing may be missing, and there are no comments, no trailing
commas and no byte-order mark.

That the rest is shorter is part of what a reader returns (`Read`), and it is what the recursion
goes down by: items are read until the bracket, members until the brace, and each of them takes at
least one character. Whether a number is in range is not decided here. Its literal is kept, and a
record asks for the range that its field has.
-/

namespace BrushScript.Json

/-! ## Blanks and numbers -/

/-- The blanks of JSON. -/
def isSpace (c : Char) : Bool := c = ' ' || c = '\t' || c = '\n' || c = '\r'

/-- The text from its first character that is no blank. -/
def skipSpaces (cs : List Char) : List Char := cs.dropWhile isSpace

theorem length_skipSpaces_le (cs : List Char) : (skipSpaces cs).length ≤ cs.length :=
  (List.dropWhile_sublist _).length_le

/-- Take digits off a text, at least one. -/
def digits? (cs : List Char) : Option (List Char × List Char) :=
  match cs.takeWhile Char.isDigit with
  | [] => none
  | ds => some (ds, cs.dropWhile Char.isDigit)

/-- Take the whole part of a number off a text: a zero by itself, or digits without one in front. -/
def wholePart? (cs : List Char) : Option (List Char × List Char) :=
  match digits? cs with
  | some ('0' :: _ :: _, _) => none
  | other => other

/-- Take the fraction of a number off a text, if a point follows. -/
def fraction? : List Char → Option (List Char × List Char)
  | '.' :: rest => (digits? rest).map fun (ds, left) => ('.' :: ds, left)
  | rest => some ([], rest)

/-- The mark of an exponent. -/
def isExponentMark (c : Char) : Bool := c = 'e' || c = 'E'

/-- The sign of an exponent. -/
def isExponentSign (c : Char) : Bool := c = '+' || c = '-'

/-- Take the exponent of a number off a text, if its mark follows. -/
def exponent? : List Char → Option (List Char × List Char)
  | [] => some ([], [])
  | e :: rest =>
    if isExponentMark e then
      let sign := rest.takeWhile isExponentSign
      if 1 < sign.length then none
      else (digits? (rest.drop sign.length)).map fun (ds, left) => (e :: (sign ++ ds), left)
    else some ([], e :: rest)

/-- The literal of a number at the front of a text. -/
def numberLiteral? (cs : List Char) : Option (List Char) := do
  let (sign, rest) := match cs with
    | '-' :: rest => (['-'], rest)
    | rest => ([], rest)
  let (whole, rest) ← wholePart? rest
  let (fraction, rest) ← fraction? rest
  let (exponent, _) ← exponent? rest
  return sign ++ whole ++ fraction ++ exponent

/-! ## Values -/

/-- A value at the front of a text and what comes after it. -/
abbrev Read (α : Type) (cs : List Char) :=
  Option (α × { rest : List Char // rest.length < cs.length })

/-- The value of a word, if the text goes on with the word. -/
def readWord? (word : List Char) (value : Json) (cs : List Char) : Read Json cs :=
  if h : word.isPrefixOf cs ∧ word ≠ [] then
    some (value, ⟨cs.drop word.length, by
      have le : word.length ≤ cs.length := (List.isPrefixOf_iff_prefix.mp h.1).length_le
      have pos : 0 < word.length := List.length_pos_iff.mpr h.2
      rw [List.length_drop]
      omega⟩)
  else none

/-- A number. -/
def readNumber? (cs : List Char) : Read Json cs :=
  match numberLiteral? cs with
  | none => none
  | some literal =>
    if h : literal ≠ [] ∧ cs ≠ [] then
      some (.number (String.ofList literal), ⟨cs.drop literal.length, by
        have pos : 0 < literal.length := List.length_pos_iff.mpr h.1
        have pos' : 0 < cs.length := List.length_pos_iff.mpr h.2
        rw [List.length_drop]
        omega⟩)
    else none

mutual

/-- A value, with blanks before it. -/
def readValue? (cs : List Char) : Read Json cs :=
  match h : skipSpaces cs with
  | [] => none
  | '"' :: rest =>
    match readText? rest with
    | none => none
    | some (text, ⟨left, h'⟩) => some (.string text, ⟨left, by
        have := length_skipSpaces_le cs
        rw [h, List.length_cons] at this
        omega⟩)
  | '[' :: rest =>
    match h'' : skipSpaces rest with
    | ']' :: left => some (.array [], ⟨left, by
        have := length_skipSpaces_le cs
        have := length_skipSpaces_le rest
        simp only [h, h'', List.length_cons] at *
        omega⟩)
    | _ =>
      match readItems? rest with
      | none => none
      | some (items, ⟨left, h'⟩) => some (.array items, ⟨left, by
          have := length_skipSpaces_le cs
          rw [h, List.length_cons] at this
          omega⟩)
  | '\x7b' :: rest =>
    match h'' : skipSpaces rest with
    | '\x7d' :: left => some (.object [], ⟨left, by
        have := length_skipSpaces_le cs
        have := length_skipSpaces_le rest
        simp only [h, h'', List.length_cons] at *
        omega⟩)
    | _ =>
      match readMembers? rest with
      | none => none
      | some (members, ⟨left, h'⟩) => some (.object members, ⟨left, by
          have := length_skipSpaces_le cs
          rw [h, List.length_cons] at this
          omega⟩)
  | c :: rest =>
    let found : Read Json (c :: rest) :=
      if c = 'n' then readWord? "null".toList .null (c :: rest)
      else if c = 't' then readWord? "true".toList (.boolean true) (c :: rest)
      else if c = 'f' then readWord? "false".toList (.boolean false) (c :: rest)
      else readNumber? (c :: rest)
    match found with
    | none => none
    | some (value, ⟨left, h'⟩) => some (value, ⟨left, by
        have := length_skipSpaces_le cs
        rw [h] at this
        omega⟩)
termination_by 2 * cs.length
decreasing_by
  all_goals
    have := length_skipSpaces_le cs
    rw [h, List.length_cons] at this
    omega

/-- The items of an array up to its bracket. -/
def readItems? (cs : List Char) : Read (List Json) cs :=
  match readValue? cs with
  | none => none
  | some (item, ⟨rest, hr⟩) =>
    match h : skipSpaces rest with
    | ']' :: left => some ([item], ⟨left, by
        have := length_skipSpaces_le rest
        rw [h, List.length_cons] at this
        omega⟩)
    | ',' :: next =>
      match readItems? next with
      | none => none
      | some (items, ⟨left, h'⟩) => some (item :: items, ⟨left, by
          have := length_skipSpaces_le rest
          rw [h, List.length_cons] at this
          omega⟩)
    | _ => none
termination_by 2 * cs.length + 1
decreasing_by
  · omega
  · have := length_skipSpaces_le rest
    rw [h, List.length_cons] at this
    omega

/-- The members of an object up to its brace. -/
def readMembers? (cs : List Char) : Read (List (Option String × Json)) cs :=
  match h : skipSpaces cs with
  | '"' :: afterQuote =>
    match readText? afterQuote with
    | none => none
    | some (key, ⟨beforeColon, hk⟩) =>
      match hc : skipSpaces beforeColon with
      | ':' :: afterColon =>
        match readValue? afterColon with
        | none => none
        | some (value, ⟨rest, hr⟩) =>
          match hs : skipSpaces rest with
          | '\x7d' :: left => some ([(key, value)], ⟨left, by
              have := length_skipSpaces_le cs
              have := length_skipSpaces_le beforeColon
              have := length_skipSpaces_le rest
              simp only [h, hc, hs, List.length_cons] at *
              omega⟩)
          | ',' :: next =>
            match readMembers? next with
            | none => none
            | some (members, ⟨left, h'⟩) => some ((key, value) :: members, ⟨left, by
                have := length_skipSpaces_le cs
                have := length_skipSpaces_le beforeColon
                have := length_skipSpaces_le rest
                simp only [h, hc, hs, List.length_cons] at *
                omega⟩)
          | _ => none
      | _ => none
  | _ => none
termination_by 2 * cs.length + 1
decreasing_by
  · have := length_skipSpaces_le cs
    have := length_skipSpaces_le beforeColon
    simp only [h, hc, List.length_cons] at *
    omega
  · have := length_skipSpaces_le cs
    have := length_skipSpaces_le beforeColon
    have := length_skipSpaces_le rest
    simp only [h, hc, hs, List.length_cons] at *
    omega

end

/-- The value at the front of a text, and whether only blanks come after it. -/
def read? (s : String) : Option (Json × Bool) :=
  (readValue? s.toList).map fun (value, rest) => (value, skipSpaces rest.val = [])

end BrushScript.Json
