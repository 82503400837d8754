import BrushScript.Integer
import BrushScript.Json.Reader

/-!
# Records in JSON

A record is an object with known fields. Its members may come in any order, unknown ones are passed
over, and a known one may stand only once. A record may also be an array of its fields in order, of
which the last ones may be missing. `fields?` brings both forms to one: the list of the fields'
values, each there or not.

So what a field may hold and what stands for it if it is missing is said once, for both forms, by
the function that reads the record. An array with more items than there are fields is refused, while
an object with more members is not.
-/

namespace BrushScript.Json

/-- The values of the members with a key. -/
def valuesOf (name : String) (members : List (Option String × Json)) : List Json :=
  members.filterMap fun m => if m.1 = some name then some m.2 else none

/-- The value of a field that stands at most once. -/
def field? (members : List (Option String × Json)) (name : String) : Option (Option Json) :=
  match valuesOf name members with
  | [] => some none
  | [value] => some (some value)
  | _ => none

/-- The fields of a record, in the order of their names. -/
def fields? (names : List String) : Json → Option (List (Option Json))
  | .object members =>
    if members.all (·.1.isSome) then names.mapM (field? members) else none
  | .array items =>
    if items.length ≤ names.length then
      some (items.map some ++ List.replicate (names.length - items.length) none)
    else none
  | _ => none

/-- A number without sign, fraction and exponent, below a bound. -/
def natBelow? (bound : Nat) : Json → Option Nat
  | .number literal => (Integer.ofDigits? literal.toList).filter (· < bound)
  | _ => none

/-- A text. -/
def text? : Json → Option String
  | .string text => text
  | _ => none

/-- Nothing or a text. -/
def optionalText? : Json → Option (Option String)
  | .null => some none
  | other => (text? other).map some

/-- The items of an array. -/
def items? : Json → Option (List Json)
  | .array items => some items
  | _ => none

/-- The members of an object, keys as they stand. -/
def members? : Json → Option (List (String × Json))
  | .object members => members.mapM fun m => m.1.map fun key => (key, m.2)
  | _ => none

/-- The value of a field, or a default where the field is missing. -/
def orDefault {α : Type} (read : Json → Option α) (default : α) : Option Json → Option α
  | none => some default
  | some value => read value

end BrushScript.Json
