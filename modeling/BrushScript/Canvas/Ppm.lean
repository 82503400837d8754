import BrushScript.Canvas

/-!
# Canvases as PPM images

The binary form P6: a header in ASCII with the format, the two extents and the greatest channel
value, and then three bytes for each pixel, row by row. Opacity is dropped.

The header ends in a single line feed, and what follows is data: a first pixel whose bytes look like
blanks is not taken for part of the header. Canvases that differ in opacity only have the same
image.
-/

namespace BrushScript.Canvas

/-- The header of an image of the given side. -/
def ppmHeader (side : Nat) : String := s!"P6\n{side} {side}\n255\n"

/-- The three bytes of a pixel. -/
def ppmPixel (c : Color) : List UInt8 := [c.red, c.green, c.blue]

/-- The bytes of the image. -/
def ppmBytes (c : Canvas) : List UInt8 :=
  ((ppmHeader c.side).toList.map fun ch => UInt8.ofNat ch.toNat) ++
    c.pixels.toList.flatMap ppmPixel

/-- The image as file content. -/
def toPpm (c : Canvas) : ByteArray := ⟨c.ppmBytes.toArray⟩

end BrushScript.Canvas
