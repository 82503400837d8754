import BrushScript.Theme
import Mathlib.Data.List.TakeWhile

/-!
# Which texts are colours

A colour literal is `#rrggbb` or `#rrggbbaa`, in digits of either case, and its mark may be missing
(`Literal`). All literals are read, and each as the colour that it writes, but they are not all that
is read: any number of marks is dropped, and a channel may be a plus sign and one digit. `Accepted`
is the whole of it (`ofHex?_eq_some_iff`), so that the literals are those of the accepted texts that
have at most one mark and no plus sign (`literal_iff`).

Both grammars have the same shape, three or four channels of two characters each, and differ in what
may stand for a channel and before the channels. So `Channels` takes the spelling of a channel as a
parameter, and what is proved of it serves both. No spelling of a channel has a mark in it, so the
marks end where the channels begin (`not_mark_mem`).
-/

namespace BrushScript.Color

open Text (trimBlanks)
open Text.Hexadecimal (value?)

/-! ## Digits and channels

The grammars: digits, channels and colours, and what stands before them.
-/

/-- A hexadecimal digit of a value, in either case. -/
def Digit (c : Char) (n : Nat) : Prop :=
  n < 16 ∧ (c = Nat.digitChar n ∨ c = (Nat.digitChar n).toUpper)

/-- Two digits of a byte, the more significant one first. -/
def Pair (c d : Char) (b : UInt8) : Prop := ∃ m n, Digit c m ∧ Digit d n ∧ b.toNat = 16 * m + n

/-- A plus sign and a digit of a byte. -/
def Signed (c d : Char) (b : UInt8) : Prop := c = '+' ∧ Digit d b.toNat

/-- What is read as a byte. -/
def Channel (c d : Char) (b : UInt8) : Prop := Pair c d b ∨ Signed c d b

/-- The channels of a colour, each of two characters. Without the last one it is opaque. -/
inductive Channels (writes : Char → Char → UInt8 → Prop) : List Char → Color → Prop
  | three {r₁ r₂ g₁ g₂ b₁ b₂ : Char} {r g b : UInt8} :
    writes r₁ r₂ r → writes g₁ g₂ g → writes b₁ b₂ b →
    Channels writes [r₁, r₂, g₁, g₂, b₁, b₂] ⟨r, g, b, 255⟩
  | four {r₁ r₂ g₁ g₂ b₁ b₂ a₁ a₂ : Char} {r g b a : UInt8} :
    writes r₁ r₂ r → writes g₁ g₂ g → writes b₁ b₂ b → writes a₁ a₂ a →
    Channels writes [r₁, r₂, g₁, g₂, b₁, b₂, a₁, a₂] ⟨r, g, b, a⟩

/-- A literal of a colour: six or eight digits, with or without the mark. -/
def Literal (cs : List Char) (color : Color) : Prop :=
  ∃ digits, (cs = digits ∨ cs = '#' :: digits) ∧ Channels Pair digits color

/-- What is read as a colour: any number of marks, and channels of two digits or with a sign. -/
def Accepted (cs : List Char) (color : Color) : Prop :=
  ∃ marks digits, cs = List.replicate marks '#' ++ digits ∧ Channels Channel digits color

variable {c d : Char} {b : UInt8} {n : Nat} {cs : List Char} {color : Color}

/-! ## Reading digits and channels

Digits are checked one by one: there are sixteen of them, and every character that has a value is
one of ASCII. Channels are read by cases on their first character, which is a plus sign or has to be
a digit.
-/

theorem lt_of_value? (h : value? c = some n) : c.toNat < 128 := by
  have within {last : Char} (le : c ≤ last) (ascii : last.toNat < 128) : c.toNat < 128 :=
    Nat.lt_of_le_of_lt le ascii
  rw [value?] at h
  split at h
  · next range => exact within range.2 (by decide)
  · split at h
    · next range => exact within range.2 (by decide)
    · split at h
      · next range => exact within range.2 (by decide)
      · cases h

theorem digit_of_value? (h : value? c = some n) : Digit c n := by
  have all : ∀ k : Fin 128, ∀ n ∈ value? (Char.ofNat k), Digit (Char.ofNat k) n := by
    unfold Digit
    decide +kernel
  have here := all ⟨c.toNat, lt_of_value? h⟩
  simp only [Char.ofNat_toNat] at here
  exact here n h

theorem value?_of_digit (h : Digit c n) : value? c = some n := by
  have all : ∀ k : Fin 16, value? (Nat.digitChar k) = some k.val ∧
      value? (Nat.digitChar k).toUpper = some k.val := by decide
  obtain ⟨lt, rfl | rfl⟩ := h
  · exact (all ⟨n, lt⟩).1
  · exact (all ⟨n, lt⟩).2

theorem value?_eq_some_iff : value? c = some n ↔ Digit c n := ⟨digit_of_value?, value?_of_digit⟩

theorem Digit.ne_plus (h : Digit c n) : c ≠ '+' := by
  rintro rfl
  cases value?_of_digit h

theorem Digit.ne_mark (h : Digit c n) : c ≠ '#' := by
  rintro rfl
  cases value?_of_digit h

theorem channel?_eq_some_iff : channel? c d = some b ↔ Channel c d b := by
  rw [channel?, Channel]
  by_cases sign : c = '+'
  · -- a sign and a digit, which no two digits can be
    have unpaired : ¬ Pair c d b := fun ⟨_, _, high, _⟩ => high.ne_plus sign
    rw [if_pos sign, Option.map_eq_some_iff]
    constructor
    · rintro ⟨n, read, rfl⟩
      have low := digit_of_value? read
      refine .inr ⟨sign, ?_⟩
      rwa [UInt8.toNat_ofNat_of_lt' (Nat.lt_trans low.1 (by decide))]
    · rintro (pair | ⟨-, low⟩)
      · exact absurd pair unpaired
      · exact ⟨b.toNat, value?_of_digit low, UInt8.ofNat_toNat⟩
  · -- two digits
    have unsigned : ¬ Signed c d b := fun signed => sign signed.1
    rw [if_neg sign, or_iff_left unsigned]
    simp only [Option.bind_eq_bind, Option.bind_eq_some_iff, Option.pure_def, Option.some.injEq,
      value?_eq_some_iff]
    constructor
    · rintro ⟨m, high, n, low, rfl⟩
      have := high.1
      have := low.1
      exact ⟨m, n, high, low, UInt8.toNat_ofNat_of_lt' (by change _ < 256; omega)⟩
    · rintro ⟨m, n, high, low, value⟩
      exact ⟨m, high, n, low, by rw [← value, UInt8.ofNat_toNat]⟩

/-! ## Reading literals

A text is read by its length: six characters without the marks, or eight. The marks are taken from
the front as long as there are any.
-/

theorem ofDigits?_eq_some_iff :
    ofDigits? cs = some color ↔ Channels Channel cs color := by
  constructor
  · intro read
    unfold ofDigits? at read
    split at read
    · simp only [Option.bind_eq_bind, Option.bind_eq_some_iff, Option.pure_def, Option.some.injEq,
        channel?_eq_some_iff] at read
      obtain ⟨r, red, g, green, b, blue, rfl⟩ := read
      exact .three red green blue
    · simp only [Option.bind_eq_bind, Option.bind_eq_some_iff, Option.pure_def, Option.some.injEq,
        channel?_eq_some_iff] at read
      obtain ⟨r, red, g, green, b, blue, a, alpha, rfl⟩ := read
      exact .four red green blue alpha
    · cases read
  · rintro (⟨red, green, blue⟩ | ⟨red, green, blue, alpha⟩)
    · simp only [ofDigits?, channel?_eq_some_iff.mpr red, channel?_eq_some_iff.mpr green,
        channel?_eq_some_iff.mpr blue]
      rfl
    · simp only [ofDigits?, channel?_eq_some_iff.mpr red, channel?_eq_some_iff.mpr green,
        channel?_eq_some_iff.mpr blue, channel?_eq_some_iff.mpr alpha]
      rfl

/-- What holds of both characters of each channel holds of all characters. -/
theorem Channels.forall_mem {writes : Char → Char → UInt8 → Prop} {p : Char → Prop}
    (each : ∀ c d b, writes c d b → p c ∧ p d) (h : Channels writes cs color) : ∀ c ∈ cs, p c := by
  cases h with
  | three red green blue =>
    simp only [List.forall_mem_cons]
    exact ⟨(each _ _ _ red).1, (each _ _ _ red).2, (each _ _ _ green).1, (each _ _ _ green).2,
      (each _ _ _ blue).1, (each _ _ _ blue).2, nofun⟩
  | four red green blue alpha =>
    simp only [List.forall_mem_cons]
    exact ⟨(each _ _ _ red).1, (each _ _ _ red).2, (each _ _ _ green).1, (each _ _ _ green).2,
      (each _ _ _ blue).1, (each _ _ _ blue).2, (each _ _ _ alpha).1, (each _ _ _ alpha).2, nofun⟩

/-- A way to write channels serves for another one on the characters that occur. -/
theorem Channels.imp {writes writes' : Char → Char → UInt8 → Prop} (h : Channels writes cs color)
    (same : ∀ c ∈ cs, ∀ d b, writes c d b → writes' c d b) : Channels writes' cs color := by
  cases h with
  | three red green blue =>
    exact .three (same _ (by simp) _ _ red) (same _ (by simp) _ _ green)
      (same _ (by simp) _ _ blue)
  | four red green blue alpha =>
    exact .four (same _ (by simp) _ _ red) (same _ (by simp) _ _ green)
      (same _ (by simp) _ _ blue) (same _ (by simp) _ _ alpha)

theorem not_mark_mem (h : Channels Channel cs color) :
    ∀ c ∈ cs, c ≠ '#' := by
  refine h.forall_mem fun c d b channel => ?_
  rcases channel with ⟨m, n, high, low, -⟩ | ⟨rfl, low⟩
  · exact ⟨high.ne_mark, low.ne_mark⟩
  · exact ⟨by decide, low.ne_mark⟩

theorem accepted_iff :
    Accepted cs color ↔ ofDigits? (cs.dropWhile (· = '#')) = some color := by
  rw [ofDigits?_eq_some_iff]
  constructor
  · -- behind the marks the channels begin, and none of them with a mark
    rintro ⟨marks, digits, rfl, channels⟩
    have bare : digits.dropWhile (· = '#') = digits := by
      cases digits with
      | nil => rfl
      | cons c rest =>
        exact List.dropWhile_cons_of_neg (by
          simpa using not_mark_mem channels c List.mem_cons_self)
    rwa [List.dropWhile_append_of_pos (by simp), bare]
  · -- what was dropped were marks
    intro channels
    have marks : cs.takeWhile (· = '#') =
        List.replicate (cs.takeWhile (· = '#')).length '#' :=
      List.eq_replicate_of_mem fun c mem => by simpa using List.mem_takeWhile_imp mem
    refine ⟨(cs.takeWhile (· = '#')).length, _, ?_, channels⟩
    rw [← marks, List.takeWhile_append_dropWhile]

/-- What is read as a colour: a text that is accepted without the blanks around it. -/
theorem ofHex?_eq_some_iff {s : String} :
    ofHex? s = some color ↔ Accepted (trimBlanks s.toList) color := accepted_iff.symm

/-- The literals are the accepted texts with at most one mark and no plus sign. -/
theorem literal_iff :
    Literal cs color ↔ Accepted cs color ∧ ¬ ['#', '#'] <+: cs ∧ '+' ∉ cs := by
  constructor
  · -- a literal has one mark at most, and two digits in each channel
    rintro ⟨digits, written, channels⟩
    have accepted : Channels Channel digits color := channels.imp fun _ _ _ _ pair => .inl pair
    have unsigned : '+' ∉ digits := fun mem =>
      channels.forall_mem (fun c d b ⟨_, _, high, low, _⟩ => ⟨high.ne_plus, low.ne_plus⟩) _ mem rfl
    have unmarked : '#' ∉ digits := fun mem => not_mark_mem accepted _ mem rfl
    rcases written with rfl | rfl
    · exact ⟨⟨0, cs, rfl, accepted⟩, fun twice => unmarked (twice.subset (by simp)), unsigned⟩
    · refine ⟨⟨1, digits, rfl, accepted⟩, fun twice => ?_, by simp [unsigned]⟩
      have first := (List.cons_prefix_cons.mp twice).2
      exact unmarked (first.subset (by simp))
  · -- an accepted text without a plus sign has digits only, and its marks are counted
    rintro ⟨⟨marks, digits, rfl, accepted⟩, single, unsigned⟩
    have channels : Channels Pair digits color := by
      refine accepted.imp fun c mem d b channel => channel.resolve_right ?_
      rintro ⟨rfl, -⟩
      exact unsigned (List.mem_append_right _ mem)
    match marks with
    | 0 => exact ⟨digits, .inl rfl, channels⟩
    | 1 => exact ⟨digits, .inr rfl, channels⟩
    | marks + 2 => exact absurd ⟨List.replicate marks '#' ++ digits, rfl⟩ single

/-! ## Backgrounds

A background is looked up as a name first, and read as a colour only if it is none.
-/

/-- A colour literal is read as its colour, and what else is read has two marks in front or a plus
sign in a channel. The same holds of a background that is not the name of a colour. -/
theorem literal_iff_read (resolver : Option ColorResolver) (s : String) (color : Color) :
    (Literal (trimBlanks s.toList) color ↔
      ofHex? s = some color ∧
        ¬ ['#', '#'] <+: trimBlanks s.toList ∧ '+' ∉ trimBlanks s.toList) ∧
    (ofHex? s = some color ↔ Accepted (trimBlanks s.toList) color) ∧
    (resolveBackground resolver s = some color ↔
      resolveColor resolver s = some color ∨
        resolveColor resolver s = none ∧ Accepted (trimBlanks s.toList) color) := by
  refine ⟨?_, ofHex?_eq_some_iff, ?_⟩
  · rw [literal_iff, ofHex?_eq_some_iff]
  · rw [resolveBackground, ← ofHex?_eq_some_iff]
    cases resolveColor resolver s with
    | none => simp
    | some named => simp

/-- Texts that are read as colours and are no literals: one has a mark too many, one has signs. -/
theorem not_literal_read :
    (resolveBackground none "##ff0010" = some (.opaqueOf 255 0 16) ∧
      ofHex? "##ff0010" = some (.opaqueOf 255 0 16) ∧
      ∀ color, ¬ Literal (trimBlanks "##ff0010".toList) color) ∧
    (resolveBackground none "+f+f+f" = some (.opaqueOf 15 15 15) ∧
      ofHex? "+f+f+f" = some (.opaqueOf 15 15 15) ∧
      ∀ color, ¬ Literal (trimBlanks "+f+f+f".toList) color) := by
  refine ⟨⟨by decide +kernel, by decide +kernel, fun color literal => ?_⟩,
    by decide +kernel, by decide +kernel, fun color literal => ?_⟩
  · exact absurd (literal_iff.mp literal).2.1 (by decide +kernel)
  · exact absurd (literal_iff.mp literal).2.2 (by decide +kernel)

end BrushScript.Color
