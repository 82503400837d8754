import BrushScript.Color
import BrushScript.Text.Blank
import BrushScript.Text.Hexadecimal

/-!
# Colour literals

A colour is written `#rrggbbaa`. Reading is more generous: blanks around the literal and any number
of leading `#` are dropped, the opacity may be missing, the digits may be of either case, and a
channel may be a plus sign and one digit.

The plus sign comes from how numbers are read elsewhere, where one may stand in front of the digits.
A channel has two characters, so behind the sign there is room for one digit only. A minus sign is
refused.
-/

namespace BrushScript.Color

/-- A colour as `#rrggbbaa`. -/
def toHex (c : Color) : String :=
  "#" ++ Text.Hexadecimal.ofByte c.red ++ Text.Hexadecimal.ofByte c.green ++
    Text.Hexadecimal.ofByte c.blue ++ Text.Hexadecimal.ofByte c.alpha

/-- One channel: two digits, or a plus sign and one digit. -/
def channel? (high low : Char) : Option UInt8 :=
  if high = '+' then (Text.Hexadecimal.value? low).map UInt8.ofNat
  else do
    let h ← Text.Hexadecimal.value? high
    let l ← Text.Hexadecimal.value? low
    return UInt8.ofNat (16 * h + l)

/-- The channels of a literal without its marks: three, or four with the opacity. -/
def ofDigits? : List Char → Option Color
  | [r₁, r₂, g₁, g₂, b₁, b₂] => do
    return opaqueOf (← channel? r₁ r₂) (← channel? g₁ g₂) (← channel? b₁ b₂)
  | [r₁, r₂, g₁, g₂, b₁, b₂, a₁, a₂] => do
    return ⟨← channel? r₁ r₂, ← channel? g₁ g₂, ← channel? b₁ b₂, ← channel? a₁ a₂⟩
  | _ => none

/-- The colour that a literal names. -/
def ofHex? (s : String) : Option Color :=
  ofDigits? ((Text.trimBlanks s.toList).dropWhile (· = '#'))

end BrushScript.Color
