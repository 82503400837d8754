import BrushScript.Color

/-!
# Channels from unit numbers

A channel given as a single-precision number between zero and one is scaled to 255. The number comes
as the 32 bits of its IEEE 754 encoding and all arithmetic is exact: what lies outside the unit
interval is clamped, the product with 255 is rounded to single precision with ties to even, and the
result to the nearest integer with halves away from zero. What is not a number gives zero.

The two roundings are not one, since the first can bring a product to a half that the second then
sends up. A negative zero is treated like the negative numbers, which gives it the channel of zero.
-/

namespace BrushScript.Color

/-- The nearest integer to a quotient, of two equally near ones the even. -/
def roundTiesToEven (n d : Nat) : Nat :=
  let q := n / d
  let r := n % d
  if 2 * r < d then q else if d < 2 * r then q + 1 else q + q % 2

/-- The nearest integer to a quotient, a half going up. -/
def roundHalfUp (n d : Nat) : Nat := (2 * n + d) / (2 * d)

/-- Keep the 24 leading binary digits of a number, rounding the rest. -/
def roundToSingle (n : Nat) : Nat :=
  let excess := n.log2 + 1 - 24
  roundTiesToEven n (1 <<< excess) <<< excess

/-- The channel for `significand / 2 ^ scale`, a single-precision number below one. -/
def scaleChannel (significand scale : Nat) : UInt8 :=
  UInt8.ofNat (roundHalfUp (roundToSingle (255 * significand)) (1 <<< scale))

/-- The channel for the single-precision number with the given encoding. -/
def channelOfUnit (bits : UInt32) : UInt8 :=
  let exponent := bits.toNat / 0x800000 % 0x100
  let fraction := bits.toNat % 0x800000
  if exponent = 255 ∧ fraction ≠ 0 then 0
  else if 0x80000000 ≤ bits.toNat then 0
  else if 127 ≤ exponent then 255
  else if exponent = 0 then scaleChannel fraction 149
  else scaleChannel (0x800000 + fraction) (150 - exponent)

/-- A colour from four single-precision channels, each given by its encoding. -/
def ofUnit (red green blue alpha : UInt32) : Color :=
  ⟨channelOfUnit red, channelOfUnit green, channelOfUnit blue, channelOfUnit alpha⟩

end BrushScript.Color
