import BrushScript.Text.Hexadecimal

/-!
# Texts in JSON

Between its quotes a text shows every character as itself, but for the quote, the backslash and the
controls below U+0020, which are escaped. A reader also accepts an escaped slash and any UTF-16 unit
by its four digits. A pair of surrogate units is one character; half of a pair is none, and a text
that holds one has no reading.

Reading has two steps. The parts of a text are taken off up to its closing quote, each a character
or a unit, and then they are put together. A text may end well and have no reading: then the value
is there, as the value of a member that nobody asks for, and only using it fails.
-/

namespace BrushScript.Json

/-! ## Writing -/

/-- One character between quotes. -/
def escapeChar (c : Char) : List Char :=
  if c = '"' then ['\\', '"']
  else if c = '\\' then ['\\', '\\']
  else if c = '\x08' then ['\\', 'b']
  else if c = '\x0c' then ['\\', 'f']
  else if c = '\n' then ['\\', 'n']
  else if c = '\r' then ['\\', 'r']
  else if c = '\t' then ['\\', 't']
  else if c.toNat < 0x20 then
    ['\\', 'u', '0', '0', Text.Hexadecimal.digit (c.toNat / 16),
      Text.Hexadecimal.digit (c.toNat % 16)]
  else [c]

/-- A text with its quotes. -/
def quote (s : String) : List Char := '"' :: (s.toList.flatMap escapeChar ++ ['"'])

/-! ## Reading -/

/-- What a text is made of while it is read: characters, and UTF-16 units given by their digits. -/
inductive Part where
  | char (c : Char)
  | unit (n : Nat)
  deriving DecidableEq, Repr

/-- The number that four hexadecimal digits write. -/
def hex4? (a b c d : Char) : Option Nat := do
  let a ← Text.Hexadecimal.value? a
  let b ← Text.Hexadecimal.value? b
  let c ← Text.Hexadecimal.value? c
  let d ← Text.Hexadecimal.value? d
  return ((a * 16 + b) * 16 + c) * 16 + d

/-- The character of an escape of one letter. -/
def unescape? : Char → Option Char
  | '"' => some '"'
  | '\\' => some '\\'
  | '/' => some '/'
  | 'b' => some '\x08'
  | 'f' => some '\x0c'
  | 'n' => some '\n'
  | 'r' => some '\r'
  | 't' => some '\t'
  | _ => none

/-- The first part of what follows an opening quote, and what comes after it. -/
def readPart? : List Char → Option (Part × List Char)
  | '\\' :: 'u' :: a :: b :: c :: d :: rest => (hex4? a b c d).map fun n => (.unit n, rest)
  | '\\' :: c :: rest => (unescape? c).map fun c => (.char c, rest)
  | '\\' :: [] => none
  | c :: rest => if c.toNat < 0x20 then none else some (.char c, rest)
  | [] => none

theorem length_readPart? {cs rest : List Char} {part : Part}
    (h : readPart? cs = some (part, rest)) : rest.length < cs.length := by
  unfold readPart? at h
  split at h
  · obtain ⟨n, _, eq⟩ := Option.map_eq_some_iff.mp h
    cases eq
    simp only [List.length_cons]
    omega
  · obtain ⟨c, _, eq⟩ := Option.map_eq_some_iff.mp h
    cases eq
    simp only [List.length_cons]
    omega
  · cases h
  · split at h
    · cases h
    · cases h
      simp
  · cases h

/-- The parts up to the closing quote, and what comes after it. -/
def readParts? (cs : List Char) :
    Option (List Part × { rest : List Char // rest.length < cs.length }) :=
  match cs with
  | [] => none
  | '"' :: rest => some ([], ⟨rest, by simp⟩)
  | c :: cs =>
    match h : readPart? (c :: cs) with
    | none => none
    | some (part, rest) =>
      match readParts? rest with
      | none => none
      | some (parts, ⟨left, h'⟩) =>
        some (part :: parts, ⟨left, Nat.lt_trans h' (length_readPart? h)⟩)
termination_by cs.length
decreasing_by exact length_readPart? h

/-- The first unit of a surrogate pair. -/
def isHighSurrogate (n : Nat) : Bool := 0xd800 ≤ n && n < 0xdc00

/-- The second unit of a surrogate pair. -/
def isLowSurrogate (n : Nat) : Bool := 0xdc00 ≤ n && n < 0xe000

/-- The characters that parts make, if no half of a surrogate pair is among them. -/
def assemble? : List Part → Option (List Char)
  | [] => some []
  | .char c :: rest => (assemble? rest).map (c :: ·)
  | .unit high :: .unit low :: rest =>
    if isHighSurrogate high then
      if isLowSurrogate low then
        let c := Char.ofNat (0x10000 + (high - 0xd800) * 0x400 + (low - 0xdc00))
        (assemble? rest).map (c :: ·)
      else none
    else if isLowSurrogate high then none
    else (assemble? (.unit low :: rest)).map (Char.ofNat high :: ·)
  | .unit n :: rest =>
    if isHighSurrogate n || isLowSurrogate n then none
    else (assemble? rest).map (Char.ofNat n :: ·)

/-- The text after an opening quote, if its parts make one, and what comes after its closing quote.
There is nothing if the text does not end or holds what no text may hold. -/
def readText? (cs : List Char) :
    Option (Option String × { rest : List Char // rest.length < cs.length }) :=
  (readParts? cs).map fun (parts, rest) => ((assemble? parts).map String.ofList, rest)

end BrushScript.Json
