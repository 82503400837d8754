import BrushScript.Json
import BrushScript.Json.Text

/-!
# Writing JSON

Two layouts: compact, without blanks, and indented by two spaces a level, with each item and member
on a line of its own and an empty array or object as a pair of brackets.

Both write a list by its items, with a comma behind each but the last, so the recursion has a case
for the last one. Writing never fails. A text without a reading, which only a reader can bring
forth, is written as the empty one; no value that this program writes holds such a text.
-/

namespace BrushScript.Json

/-- A key or text; one without a reading is written as the empty text. -/
def writeText (text : Option String) : List Char := quote (text.getD "")

/-- A value that is no array or object. -/
def writeAtom : Json → List Char
  | .boolean true => "true".toList
  | .boolean false => "false".toList
  | .number literal => literal.toList
  | .string text => writeText text
  | _ => "null".toList

mutual

/-- A value without blanks. -/
def writeCompact : Json → List Char
  | .array items => '[' :: (writeCompactItems items ++ [']'])
  | .object members => '\x7b' :: (writeCompactMembers members ++ ['\x7d'])
  | other => writeAtom other

/-- Items with commas between them. -/
def writeCompactItems : List Json → List Char
  | [] => []
  | [item] => writeCompact item
  | item :: rest => writeCompact item ++ ',' :: writeCompactItems rest

/-- Members with commas between them. -/
def writeCompactMembers : List (Option String × Json) → List Char
  | [] => []
  | [(key, value)] => writeText key ++ ':' :: writeCompact value
  | (key, value) :: rest =>
    writeText key ++ ':' :: writeCompact value ++ ',' :: writeCompactMembers rest

end

/-- The start of a line at a depth. -/
def newLine (depth : Nat) : List Char := '\n' :: List.replicate (2 * depth) ' '

mutual

/-- A value indented, at a depth. -/
def writeIndented (depth : Nat) : Json → List Char
  | .array [] => ['[', ']']
  | .array items => '[' :: (writeIndentedItems (depth + 1) items ++ newLine depth ++ [']'])
  | .object [] => ['\x7b', '\x7d']
  | .object members =>
    '\x7b' :: (writeIndentedMembers (depth + 1) members ++ newLine depth ++ ['\x7d'])
  | other => writeAtom other

/-- Items on lines of their own. -/
def writeIndentedItems (depth : Nat) : List Json → List Char
  | [] => []
  | [item] => newLine depth ++ writeIndented depth item
  | item :: rest =>
    newLine depth ++ writeIndented depth item ++ ',' :: writeIndentedItems depth rest

/-- Members on lines of their own. -/
def writeIndentedMembers (depth : Nat) : List (Option String × Json) → List Char
  | [] => []
  | [(key, value)] => newLine depth ++ writeText key ++ ':' :: ' ' :: writeIndented depth value
  | (key, value) :: rest =>
    newLine depth ++ writeText key ++ ':' :: ' ' :: writeIndented depth value ++
      ',' :: writeIndentedMembers depth rest

end

/-- The value on one line. -/
def compact (j : Json) : String := String.ofList (writeCompact j)

/-- The value on indented lines. -/
def pretty (j : Json) : String := String.ofList (writeIndented 0 j)

end BrushScript.Json
