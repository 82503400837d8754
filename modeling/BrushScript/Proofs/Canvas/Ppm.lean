import BrushScript.Canvas.Ppm
import BrushScript.Proofs.Integer
import BrushScript.Proofs.Paint.Stamp

/-!
# PPM images are read back

`Ppm.read?` reads an image of the binary form P6 off the front of some bytes: the mark, then width,
height and the greatest channel value in decimal, one blank, and three bytes for each pixel. It does
not know who wrote them, so any blanks may stand in the header. The image of a canvas is read with
nothing left over (`read?_ppmBytes`), and the bytes of a pixel stand in it where its row and column
say (`body_at`). So two canvases have the same image if and only if they agree in their sides and in
all colours up to opacity (`toPpm_shows_rgb`).

The reader is what makes this a statement about images and not about the writer: that different
canvases have different bytes follows from their being read back, and not from looking at how the
header and the pixels are put together. Where its grammar leaves a choice, as in the blanks of the
header, it accepts what other writers may produce as well.
-/

namespace BrushScript

/-! ## Images

The reader, one function for each part of the form. What remains of the bytes is handed on, so that
images can follow each other.
-/

namespace Ppm

/-- A picture in bytes: its extents, and three bytes for each pixel, row by row. -/
structure Image where
  width : Nat
  height : Nat
  raster : List UInt8
  length_raster : raster.length = 3 * (width * height)

/-- The blanks that stand between the numbers of a header. -/
def isBlank (b : UInt8) : Bool := b = 0x20 || 0x09 ≤ b && b ≤ 0x0d

/-- The bytes behind some blanks, of which there must be one. -/
def skipBlanks? : List UInt8 → Option (List UInt8)
  | b :: rest => if isBlank b then some (rest.dropWhile isBlank) else none
  | [] => none

/-- The character of a byte, which is right for ASCII. -/
def toChar (b : UInt8) : Char := Char.ofNat b.toNat

/-- The byte is a digit. -/
def isDigit (b : UInt8) : Bool := 0x30 ≤ b && b ≤ 0x39

/-- A number with blanks before it. -/
def readNumber? (bytes : List UInt8) : Option (Nat × List UInt8) := do
  let bytes ← skipBlanks? bytes
  let n ← Integer.ofDigits? ((bytes.takeWhile isDigit).map toChar)
  return (n, bytes.dropWhile isDigit)

/-- An image of some extents behind its header: one blank and the pixels. -/
def readRaster? (width height : Nat) : List UInt8 → Option (Image × List UInt8)
  | blank :: body =>
    let size := 3 * (width * height)
    if h : isBlank blank ∧ size ≤ body.length then
      some (⟨width, height, body.take size, List.length_take_of_le h.2⟩, body.drop size)
    else none
  | [] => none

/-- An image at the front of some bytes, and what comes after it. -/
def read? : List UInt8 → Option (Image × List UInt8)
  | 0x50 :: 0x36 :: bytes => do
    let (width, bytes) ← readNumber? bytes
    let (height, bytes) ← readNumber? bytes
    let (greatest, bytes) ← readNumber? bytes
    if greatest = 255 then readRaster? width height bytes else none
  | _ => none

/-! ## Numbers of a header

A header is written in ASCII, where a character is its byte. A number ends at the first byte that is
no digit, which behind a number is always a blank.
-/

/-- A text in ASCII. -/
def ascii (cs : List Char) : List UInt8 := cs.map fun ch => UInt8.ofNat ch.toNat

theorem ascii_append (cs ds : List Char) : ascii (cs ++ ds) = ascii cs ++ ascii ds :=
  List.map_append

theorem digit_ascii {d : Char} (digit : d.isDigit = true) :
    toChar (UInt8.ofNat d.toNat) = d ∧ isDigit (UInt8.ofNat d.toNat) = true := by
  simp only [Char.isDigit, ge_iff_le, Bool.and_eq_true, decide_eq_true_eq,
    UInt32.le_iff_toNat_le] at digit
  have low : 48 ≤ d.toNat := digit.1
  have high : d.toNat ≤ 57 := digit.2
  have same : (UInt8.ofNat d.toNat).toNat = d.toNat :=
    UInt8.toNat_ofNat_of_lt' (Nat.lt_of_le_of_lt high (by decide))
  constructor
  · rw [toChar, same, Char.ofNat_toNat]
  · simp only [isDigit, Bool.and_eq_true, decide_eq_true_eq, UInt8.le_iff_toNat_le, same]
    exact ⟨low, high⟩

/-- Digits are read from their bytes. -/
theorem digits_ascii {ds : List Char} (digits : ∀ d ∈ ds, d.isDigit = true) :
    (ascii ds).map toChar = ds ∧ ∀ b ∈ ascii ds, isDigit b = true := by
  induction ds with
  | nil => exact ⟨rfl, nofun⟩
  | cons d ds ih =>
    obtain ⟨same, each⟩ := ih fun d mem => digits d (List.mem_cons_of_mem _ mem)
    obtain ⟨first, digit⟩ := digit_ascii (digits d List.mem_cons_self)
    simp only [ascii, List.map_cons, List.forall_mem_cons] at *
    exact ⟨by rw [first, same], digit, each⟩

theorem isBlank_of_isDigit {b : UInt8} (digit : isDigit b = true) : isBlank b = false := by
  simp only [isDigit, Bool.and_eq_true, decide_eq_true_eq, UInt8.le_iff_toNat_le] at digit
  have low : 48 ≤ b.toNat := digit.1
  simp only [isBlank, Bool.or_eq_false_iff, Bool.and_eq_false_iff, decide_eq_false_iff_not,
    ← UInt8.toNat_inj, UInt8.le_iff_toNat_le, UInt8.toNat_ofNat]
  omega

/-- A number is read as it was written, up to the first byte that is no digit. -/
theorem readNumber?_toDigits (blank stop : UInt8) (gap : isBlank blank = true)
    (ends : isDigit stop = false) (n : Nat) (rest : List UInt8) :
    readNumber? (blank :: (ascii (Nat.toDigits 10 n) ++ stop :: rest)) =
      some (n, stop :: rest) := by
  obtain ⟨same, each⟩ := digits_ascii (Integer.isDigit_toDigits n)
  obtain ⟨d, ds, first⟩ : ∃ d ds, ascii (Nat.toDigits 10 n) = d :: ds :=
    List.exists_cons_of_ne_nil (by simp [ascii, Nat.toDigits_ne_nil])
  have shown : isBlank d = false :=
    isBlank_of_isDigit (each d (by rw [first]; exact List.mem_cons_self))
  have skipped : (ascii (Nat.toDigits 10 n) ++ stop :: rest).dropWhile isBlank =
      ascii (Nat.toDigits 10 n) ++ stop :: rest := by
    rw [first, List.cons_append, List.dropWhile_cons_of_neg (by simp [shown])]
  have front : (ascii (Nat.toDigits 10 n) ++ stop :: rest).takeWhile isDigit =
      ascii (Nat.toDigits 10 n) := by
    rw [List.takeWhile_append_of_pos each, List.takeWhile_cons_of_neg (by simp [ends]),
      List.append_nil]
  have behind : (ascii (Nat.toDigits 10 n) ++ stop :: rest).dropWhile isDigit = stop :: rest := by
    rw [List.dropWhile_append_of_pos each, List.dropWhile_cons_of_neg (by simp [ends])]
  rw [readNumber?, skipBlanks?, if_pos gap, skipped]
  simp [front, behind, same, Integer.ofDigits?_toDigits]

end Ppm

/-! ## The image of a canvas

The header is the mark and three numbers, and the pixels follow it, so the reader takes it apart in
the order in which it was written.
-/

/-- The channels of a colour without its opacity. -/
def Color.rgb (c : Color) : List UInt8 := [c.red, c.green, c.blue]

namespace Canvas

open Ppm (Image ascii)

/-- The bytes of the pixels. -/
def body (c : Canvas) : List UInt8 := c.pixels.toList.flatMap ppmPixel

theorem length_flatMap_ppmPixel (colors : List Color) :
    (colors.flatMap ppmPixel).length = 3 * colors.length := by
  induction colors with
  | nil => rfl
  | cons c colors ih =>
    simp only [List.flatMap_cons, List.length_append, List.length_cons, ih, ppmPixel,
      List.length_nil]
    omega

theorem length_body (c : Canvas) : c.body.length = 3 * (c.side * c.side) := by
  rw [body, length_flatMap_ppmPixel, Array.length_toList, c.size_eq]

/-- The bytes of a canvas, their header apart. -/
theorem ppmBytes_eq (c : Canvas) : c.ppmBytes =
    0x50 :: 0x36 :: 0x0a :: (ascii (Nat.toDigits 10 c.side) ++
      0x20 :: (ascii (Nat.toDigits 10 c.side) ++
        0x0a :: (ascii (Nat.toDigits 10 255) ++ 0x0a :: c.body))) := by
  have header : (ppmHeader c.side).toList = "P6\n".toList ++ (Nat.toDigits 10 c.side ++
      (" ".toList ++ (Nat.toDigits 10 c.side ++ "\n255\n".toList))) := by
    simp only [ppmHeader, String.toList_append, List.append_assoc, Nat.toList_repr, toString]
  rw [ppmBytes, header]
  change ascii _ ++ c.body = _
  simp only [Ppm.ascii_append, List.append_assoc]
  rfl

/-- The image of a canvas. -/
def image (c : Canvas) : Image := ⟨c.side, c.side, c.body, c.length_body⟩

/-- The image of a canvas is read from its bytes, and nothing is left over. -/
theorem read?_ppmBytes (c : Canvas) : Ppm.read? c.ppmBytes = some (c.image, []) := by
  rw [ppmBytes_eq, Ppm.read?]
  simp only [Ppm.readNumber?_toDigits 0x0a 0x20 (by decide) (by decide),
    Ppm.readNumber?_toDigits 0x20 0x0a (by decide) (by decide),
    Ppm.readNumber?_toDigits 0x0a 0x0a (by decide) (by decide),
    Option.bind_eq_bind, Option.bind_some, if_true]
  have all : 3 * (c.side * c.side) ≤ c.body.length := Nat.le_of_eq c.length_body.symm
  have none : c.body.length ≤ 3 * (c.side * c.side) := Nat.le_of_eq c.length_body
  rw [Ppm.readRaster?, dif_pos ⟨by decide, all⟩]
  simp only [List.take_of_length_le none, List.drop_eq_nil_of_le none]
  rfl

/-! ## Where the pixels stand

The pixels are written row by row, three bytes each, so that the bytes of a pixel are found by its
place among the pixels.
-/

/-- Three bytes for each pixel before it. -/
theorem flatMap_ppmPixel_at {colors : List Color} {i : Nat} (h : i < colors.length) :
    ((colors.flatMap ppmPixel).drop (3 * i)).take 3 = colors[i].rgb := by
  induction colors generalizing i with
  | nil => exact absurd h (Nat.not_lt_zero i)
  | cons c colors ih =>
    cases i with
    | zero => rfl
    | succ i =>
      have behind : 3 * (i + 1) = (ppmPixel c).length + 3 * i := by
        simp only [ppmPixel, List.length_cons, List.length_nil]
        omega
      rw [List.flatMap_cons, behind, List.drop_length_add_append,
        ih (Nat.lt_of_succ_lt_succ h)]
      rfl

/-- The pixel in a row and a column stands in the image where these say. -/
theorem body_at (c : Canvas) {x y : Nat} (column : x < c.side) (row : y < c.side) :
    (c.pixel? ⟨x, y⟩).map Color.rgb = some ((c.body.drop (3 * (y * c.side + x))).take 3) := by
  have on : c.Contains ⟨x, y⟩ :=
    ⟨Int.natCast_nonneg x, Int.ofNat_lt.mpr column, Int.natCast_nonneg y, Int.ofNat_lt.mpr row⟩
  have place : y * c.side + x < c.pixels.size := index_lt on
  have same : c.pixel? ⟨x, y⟩ = c.pixels[y * c.side + x]? := if_pos on
  rw [same, Array.getElem?_eq_getElem place, body, flatMap_ppmPixel_at (by simpa using place)]
  simp only [Option.map_some, Array.getElem_toList]

/-- Canvases of the same bytes show the same, up to opacity. -/
theorem rgb_of_body {a b : Canvas} (side : a.side = b.side) (same : a.body = b.body) (q : Point) :
    (a.pixel? q).map Color.rgb = (b.pixel? q).map Color.rgb := by
  by_cases on : a.Contains q
  · -- a cell of both canvases
    obtain ⟨hx, hx', hy, hy'⟩ := on
    have column : q.x.toNat < a.side := by omega
    have row : q.y.toNat < a.side := by omega
    have cell : q = ⟨(q.x.toNat : Nat), (q.y.toNat : Nat)⟩ := by
      rw [Int.toNat_of_nonneg hx, Int.toNat_of_nonneg hy]
    rw [cell, body_at a column row, body_at b (side ▸ column) (side ▸ row), same, side]
  · -- a cell of neither
    rw [pixel?, pixel?, if_neg on, if_neg fun h => on ((contains_congr side).mpr h)]

/-- Canvases that show the same have the same bytes. -/
theorem body_of_rgb {a b : Canvas} (side : a.side = b.side)
    (same : ∀ q, (a.pixel? q).map Color.rgb = (b.pixel? q).map Color.rgb) : a.body = b.body := by
  have colors : a.pixels.toList.map Color.rgb = b.pixels.toList.map Color.rgb := by
    apply List.ext_getElem
    · simp only [List.length_map, Array.length_toList, a.size_eq, b.size_eq, side]
    · intro i ha hb
      simp only [List.length_map, Array.length_toList] at ha hb
      have cell : b.cellAt i = a.cellAt i := by simp only [cellAt, side]
      have here := same (a.cellAt i)
      rw [pixel?_cellAt ha, ← cell, pixel?_cellAt hb] at here
      simpa using here
  have flat (c : Canvas) : c.body = (c.pixels.toList.map Color.rgb).flatten := List.flatMap_def
  rw [flat, flat, colors]

theorem toPpm_eq_iff {a b : Canvas} : a.toPpm = b.toPpm ↔ a.ppmBytes = b.ppmBytes := by
  rw [toPpm, toPpm, ByteArray.mk.injEq, Array.mk.injEq]

/-! ## What an image shows

From the same bytes follow the same image, and from that the same side and the same channels in
every cell.
-/

/-- The image of a canvas is an image of its extents with nothing behind it, in which the channels
of a pixel stand where its row and column say. So canvases have one image if and only if they are of
one side and have the same channels in every cell; only opacity is lost. -/
theorem toPpm_shows_rgb :
    (∀ a b : Canvas, a.toPpm = b.toPpm ↔
      a.side = b.side ∧ ∀ q, (a.pixel? q).map Color.rgb = (b.pixel? q).map Color.rgb) ∧
    ∀ c : Canvas, ∃ image : Image, Ppm.read? c.toPpm.data.toList = some (image, []) ∧
      image.width = c.side ∧ image.height = c.side ∧
      ∀ x y : Fin c.side, (c.pixel? ⟨(x : Nat), (y : Nat)⟩).map Color.rgb =
        some ((image.raster.drop (3 * (y * c.side + x))).take 3) := by
  constructor
  · intro a b
    rw [toPpm_eq_iff]
    constructor
    · -- the same bytes are read as the same image
      intro same
      have read := a.read?_ppmBytes
      rw [same, b.read?_ppmBytes, Option.some.injEq, Prod.mk.injEq] at read
      have side : a.side = b.side := congrArg Image.width read.1.symm
      exact ⟨side, rgb_of_body side (congrArg Image.raster read.1.symm)⟩
    · -- the same channels are written as the same bytes
      rintro ⟨side, same⟩
      rw [ppmBytes_eq, ppmBytes_eq, side, body_of_rgb side same]
  · intro c
    exact ⟨c.image, c.read?_ppmBytes, rfl, rfl, fun x y => c.body_at x.isLt y.isLt⟩

/-- The image of a canvas of one pixel, which is half transparent red. -/
example : (Canvas.filled 1 ⟨255, 0, 0, 128⟩).toPpm = "P6\n1 1\n255\n".toUTF8 ++ ⟨#[255, 0, 0]⟩ := by
  decide +kernel

end Canvas
end BrushScript
