/-!
# Places in a script

A span is a stretch of the script: the offsets of its first byte and of the byte after its last, and
the line and column of its first character, counted from one. `Located` is anything with a span.

Lines and columns are numbers of 32 bits, which go on from 0 behind the greatest one. A script that
gets there has 2^32 - 1 characters at least; in a shorter one they are what a reader would count.
Offsets are natural numbers: a script that is in memory has no more bytes than there are addresses.

The numbers of a line and a column are read as natural numbers, and made from them, without a word
(the two coercions), because they are only ever carried along and printed.
-/

namespace BrushScript.Syntax

/-- A number of a line or a column is also a natural number. -/
scoped instance coeWord : CoeOut UInt32 Nat := ⟨UInt32.toNat⟩

/-- A count gives the number of a line or a column, of which 32 bits are kept. -/
scoped instance coeCount : Coe Nat UInt32 := ⟨UInt32.ofNat⟩

/-- A stretch of the script. -/
structure Span where
  start : Nat
  stop : Nat
  line : UInt32
  column : UInt32
  deriving DecidableEq, Repr, Inhabited

namespace Span

/-- The least span that covers two spans. Its line and column are those of the one that starts
first, of the left one if both start together. -/
def merge (s t : Span) : Span :=
  let first := if t.start < s.start then t else s
  ⟨min s.start t.start, max s.stop t.stop, first.line, first.column⟩

@[simp] theorem merge_self (s : Span) : s.merge s = s := by
  simp [merge]

end Span

/-- Something at a place of the script. -/
structure Located (α : Type) where
  value : α
  span : Span
  deriving DecidableEq, Repr

end BrushScript.Syntax
