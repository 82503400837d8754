import BrushScript.Text.Ranges

/-!
# Blank characters

The property *White_Space* of the Unicode standard, and trimming by it. The class is wider than
core's `Char.isWhitespace`, which stops at ASCII: a script may be indented by a space of any width,
and a colour name may stand between such spaces.

The ends of lines are blank too. The lexer asks for them first, so between tokens they are never
passed over as blanks; around a colour name they are.
-/

namespace BrushScript.Text

/-- The blank code points: tabs and line ends, the space, and the spaces from U+0080 on. -/
def blankRanges : List (Nat × Nat) := [
  (0x9, 0xd), (0x20, 0x20), (0x85, 0x85), (0xa0, 0xa0), (0x1680, 0x1680), (0x2000, 0x200a),
  (0x2028, 0x2029), (0x202f, 0x202f), (0x205f, 0x205f), (0x3000, 0x3000)
]

/-- A character of the Unicode property *White_Space*. -/
def isBlank (c : Char) : Bool := inRanges blankRanges c

/-- The characters without the blank ones at either end. -/
def trimBlanks (cs : List Char) : List Char :=
  ((cs.dropWhile isBlank).reverse.dropWhile isBlank).reverse

/-- The text without the blank characters at either end. -/
def trim (s : String) : String := String.ofList (trimBlanks s.toList)

@[simp] theorem toList_trim (s : String) : (trim s).toList = trimBlanks s.toList := by
  simp [trim]

end BrushScript.Text
