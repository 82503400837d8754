/-!
# Hexadecimal digits

One digit in either case to its value, a value to its lowercase digit, a byte as two digits.
`value?_digit` ties the two directions.

Colours and the escapes of JSON are read and written with these; a quoted text in a message writes
code points with them, in as few digits as they need.
-/

namespace BrushScript.Text.Hexadecimal

/-- The value of a digit, in either case. -/
def value? (c : Char) : Option Nat :=
  if '0' ≤ c ∧ c ≤ '9' then some (c.toNat - '0'.toNat)
  else if 'a' ≤ c ∧ c ≤ 'f' then some (c.toNat - 'a'.toNat + 10)
  else if 'A' ≤ c ∧ c ≤ 'F' then some (c.toNat - 'A'.toNat + 10)
  else none

/-- The lowercase digit of a value below sixteen. -/
def digit (n : Nat) : Char := Nat.digitChar n

theorem value?_digit {n : Nat} (h : n < 16) : value? (digit n) = some n := by
  have : ∀ m : Fin 16, value? (digit m) = some m.val := by decide
  exact this ⟨n, h⟩

/-- A byte as two digits. -/
def ofByte (b : UInt8) : String :=
  String.ofList [digit (b.toNat / 16), digit (b.toNat % 16)]

/-- A number in the fewest digits. -/
def ofNat (n : Nat) : String := String.ofList (Nat.toDigits 16 n)

end BrushScript.Text.Hexadecimal
