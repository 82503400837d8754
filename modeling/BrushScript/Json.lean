/-!
# JSON values

A value as it was written: numbers keep their literal and objects their members in order, repeated
keys included, so that a reader of a record can be strict about both. A text whose escapes leave
half of a surrogate pair is no text; it can be skipped but not used, and stands as `none`.

Values that are written come from `text`, `int`, `record`, `list` and `option`. Their members stand
in the order of the record; only what the command line prints is sorted, with members of equal keys
in the order they had.
-/

namespace BrushScript

/-- JSON values. -/
inductive Json where
  | null
  | boolean (b : Bool)
  | number (literal : String)
  | string (text : Option String)
  | array (items : List Json)
  | object (members : List (Option String × Json))

namespace Json

/-- A text as a value. -/
def text (s : String) : Json := .string (some s)

/-- A number as a value. -/
def int (n : Int) : Json := .number (toString n)

/-- An object with the given members. -/
def record (members : List (String × Json)) : Json :=
  .object (members.map fun m => (some m.1, m.2))

/-- A list of values of one kind. -/
def list {α : Type} (f : α → Json) (items : List α) : Json := .array (items.map f)

/-- A value or nothing. -/
def option {α : Type} (f : α → Json) : Option α → Json
  | some a => f a
  | none => .null

/-! ## Members in alphabetical order -/

/-- Insert a member before the first that does not come before it. -/
def insertMember (m : Option String × Json) :
    List (Option String × Json) → List (Option String × Json)
  | [] => [m]
  | other :: rest =>
    if other.1.getD "" < m.1.getD "" then other :: insertMember m rest else m :: other :: rest

mutual

/-- The value with the members of every object in alphabetical order of their keys. -/
def sorted : Json → Json
  | .array items => .array (sortedItems items)
  | .object members => .object (sortedMembers members)
  | other => other

/-- Sort inside every item. -/
def sortedItems : List Json → List Json
  | [] => []
  | item :: rest => sorted item :: sortedItems rest

/-- Sort inside every member, and the members themselves. -/
def sortedMembers : List (Option String × Json) → List (Option String × Json)
  | [] => []
  | (key, value) :: rest => insertMember (key, sorted value) (sortedMembers rest)

end

end Json
end BrushScript
