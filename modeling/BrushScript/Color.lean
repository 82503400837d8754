/-!
# Colours

A colour has four channels of eight bits: red, green, blue and opacity. `Color.clear`, all four of
them zero, is the brush that does not paint. `Color.approx` is the comparison that flood fill and
the queries use: every channel is within one percent of the full scale.

That is a difference of at most two in each channel. Being near is no equivalence: a colour can be
near to two others that are not near to each other, so a fill compares every cell with its seed and
never with the neighbour it came from.

A colour without opacity that is not the clear one does paint.
-/

namespace BrushScript

/-- A colour with opacity. -/
structure Color where
  red : UInt8
  green : UInt8
  blue : UInt8
  alpha : UInt8
  deriving DecidableEq, Repr, Inhabited

namespace Color

/-- An opaque colour. -/
def opaqueOf (red green blue : UInt8) : Color := ⟨red, green, blue, 255⟩

/-- Opaque black. -/
def black : Color := opaqueOf 0 0 0

/-- Opaque white, the colour of a fresh canvas. -/
def white : Color := opaqueOf 255 255 255

/-- The fully transparent colour, which as a brush paints nothing. -/
def clear : Color := ⟨0, 0, 0, 0⟩

/-! ## Comparison with tolerance -/

/-- Two channels differ by less than one percent of 255. -/
def channelsClose (a b : UInt8) : Bool :=
  (max a.toNat b.toNat - min a.toNat b.toNat) * 100 < 255

/-- Two colours are close in every channel. -/
def approx (c d : Color) : Bool :=
  channelsClose c.red d.red && channelsClose c.green d.green &&
    channelsClose c.blue d.blue && channelsClose c.alpha d.alpha

@[simp] theorem channelsClose_refl (a : UInt8) : channelsClose a a = true := by
  simp [channelsClose]

@[simp] theorem approx_refl (c : Color) : approx c c = true := by
  simp [approx]

/-- The channels in words, as `rgba(r, g, b, a)`. -/
def describe (c : Color) : String :=
  s!"rgba({c.red.toNat}, {c.green.toNat}, {c.blue.toNat}, {c.alpha.toNat})"

end Color
end BrushScript
