import BrushScript.Json.Record
import BrushScript.Proofs.Integer
import BrushScript.Proofs.Json.Text

/-!
# Numbers in JSON are read

`WritesNumber` says which texts are the literals of numbers. The reader takes a literal whole where
nothing behind it could belong to a number (`WritesNumber.readNumber?`). The decimal notation of an
integer is one (`writesNumber_int`), and a record that asks for a number without a sign gets the
number back (`natBelow?_int`).

A literal has four parts, of which all but the digits before the point may be missing: a sign, the
whole part, a fraction and an exponent. The reader takes them from the front one by one. Each stops
at the first character that is not its own, so a lemma about a part says what may stand behind it:
behind digits no other digit (`EndsDigits`), behind the literal no digit, point or exponent mark
(`EndsNumber`).
-/

namespace BrushScript.Json

open Integer (isDigit_toDigits ofDigits?_toDigits)

/-! ## The grammar

Each part has a rule of its own, and a missing part is written by nothing. The sign of an exponent
may be a plus, unlike that of the number.
-/

/-- Digits, at least one. -/
def WritesDigits (ds : List Char) : Prop := ds ≠ [] ∧ ∀ c ∈ ds, c.isDigit = true

/-- A point and digits, or nothing. -/
inductive WritesFraction : List Char → Prop
  | nothing : WritesFraction []
  | point {ds : List Char} (digits : WritesDigits ds) : WritesFraction ('.' :: ds)

/-- A mark, at most one sign, and digits, or nothing. -/
inductive WritesExponent : List Char → Prop
  | nothing : WritesExponent []
  | power {mark : Char} {sign ds : List Char} (marked : isExponentMark mark = true)
      (signed : sign = [] ∨ ∃ c, isExponentSign c = true ∧ sign = [c]) (digits : WritesDigits ds) :
    WritesExponent (mark :: (sign ++ ds))

/-- The literals of numbers. No zero stands before other digits. -/
inductive WritesNumber : List Char → Prop
  | literal {sign whole fraction exponent : List Char} (signed : sign = [] ∨ sign = ['-'])
      (digits : WritesDigits whole) (plain : ∀ d more, whole ≠ '0' :: d :: more)
      (broken : WritesFraction fraction) (scaled : WritesExponent exponent) :
    WritesNumber (sign ++ whole ++ fraction ++ exponent)

/-! ## The parts of a literal

Each part is read exactly if what stands behind it cannot belong to it. For all but the last one
this is so because the next part, or the end of the number, begins with another character.
-/

/-- What follows a number cannot belong to it. -/
def EndsNumber (rest : List Char) : Prop :=
  ∀ c more, rest = c :: more → c.isDigit = false ∧ c ≠ '.' ∧ isExponentMark c = false

/-- What follows digits is no digit. -/
def EndsDigits (rest : List Char) : Prop := ∀ c more, rest = c :: more → c.isDigit = false

variable {cs ds rest : List Char}

theorem endsNumber_nil : EndsNumber [] := nofun

theorem endsNumber_cons {c : Char} (other : c.isDigit = false ∧ c ≠ '.' ∧ isExponentMark c = false)
    (rest : List Char) : EndsNumber (c :: rest) := by
  intro _ _ same
  cases same
  exact other

theorem EndsNumber.endsDigits (ends : EndsNumber rest) : EndsDigits rest :=
  fun c more same => (ends c more same).1

theorem WritesDigits.exists_head (written : WritesDigits ds) :
    ∃ d more, ds = d :: more ∧ d.isDigit = true := by
  obtain ⟨d, more, same⟩ := List.exists_cons_of_ne_nil written.1
  exact ⟨d, more, same, written.2 d (by rw [same]; exact List.mem_cons_self)⟩

theorem WritesDigits.digits? (written : WritesDigits ds) (ends : EndsDigits rest) :
    digits? (ds ++ rest) = some (ds, rest) := by
  have none : rest.takeWhile Char.isDigit = [] ∧ rest.dropWhile Char.isDigit = rest := by
    cases rest with
    | nil => exact ⟨rfl, rfl⟩
    | cons c more =>
      have other := ends c more rfl
      exact ⟨List.takeWhile_cons_of_neg (by rw [other]; exact nofun),
        List.dropWhile_cons_of_neg (by rw [other]; exact nofun)⟩
  rw [Json.digits?, List.takeWhile_append_of_pos written.2,
    List.dropWhile_append_of_pos written.2, none.1, none.2, List.append_nil]
  cases ds with
  | nil => exact absurd rfl written.1
  | cons => rfl

theorem WritesDigits.wholePart? (written : WritesDigits ds)
    (plain : ∀ d more, ds ≠ '0' :: d :: more) (ends : EndsDigits rest) :
    wholePart? (ds ++ rest) = some (ds, rest) := by
  rw [Json.wholePart?, written.digits? ends]
  split
  · next same =>
    have front := congrArg Prod.fst (Option.some.inj same)
    exact absurd front (plain _ _)
  · rfl

theorem exponent_endsDigits (written : WritesExponent cs) (ends : EndsNumber rest) :
    EndsDigits (cs ++ rest) ∧ ∀ more, cs ++ rest ≠ '.' :: more := by
  cases written with
  | nothing => exact ⟨ends.endsDigits, fun more same => (ends _ _ same).2.1 rfl⟩
  | @power mark sign ds marked signed digits =>
    -- the exponent begins with its mark, which is no digit and no point
    have isMark : mark = 'e' ∨ mark = 'E' := by simpa [isExponentMark] using marked
    constructor
    · intro c more same
      obtain rfl := (List.cons.inj same).1
      rcases isMark with rfl | rfl <;> rfl
    · intro more same
      obtain rfl := (List.cons.inj same).1
      cases marked

theorem fraction_endsDigits (broken : WritesFraction ds) (scaled : WritesExponent cs)
    (ends : EndsNumber rest) : EndsDigits (ds ++ (cs ++ rest)) := by
  cases broken with
  | nothing => exact (exponent_endsDigits scaled ends).1
  | point digits => -- a fraction begins with its point
    intro c more same
    obtain rfl := (List.cons.inj same).1
    rfl

theorem WritesFraction.fraction? (broken : WritesFraction ds) (scaled : WritesExponent cs)
    (ends : EndsNumber rest) : fraction? (ds ++ (cs ++ rest)) = some (ds, cs ++ rest) := by
  obtain ⟨behind, noPoint⟩ := exponent_endsDigits scaled ends
  cases broken with
  | nothing => -- no fraction, and what follows is no point either
    rw [List.nil_append]
    unfold Json.fraction?
    split
    · next same => exact absurd same (noPoint _)
    · rfl
  | point digits =>
    rw [List.cons_append, Json.fraction?, digits.digits? behind]
    rfl

theorem WritesExponent.exponent? (scaled : WritesExponent cs) (ends : EndsNumber rest) :
    exponent? (cs ++ rest) = some (cs, rest) := by
  cases scaled with
  | nothing => -- no exponent, and what follows is no mark either
    cases rest with
    | nil => rfl
    | cons c more => rw [List.nil_append, Json.exponent?, (ends c more rfl).2.2, if_neg (by decide)]
  | @power mark sign ds marked signed digits =>
    obtain ⟨d, more, same, digit⟩ := digits.exists_head
    have unsigned : isExponentSign d = false := by
      rw [Bool.eq_false_iff]
      intro signed
      have isSign : d = '+' ∨ d = '-' := by simpa [isExponentSign] using signed
      rcases isSign with rfl | rfl <;> cases digit
    have front : (sign ++ (ds ++ rest)).takeWhile isExponentSign = sign := by
      have none : (ds ++ rest).takeWhile isExponentSign = [] := by
        rw [same, List.cons_append]
        exact List.takeWhile_cons_of_neg (by rw [unsigned]; exact nofun)
      rcases signed with rfl | ⟨c, signed, rfl⟩
      · exact none
      · rw [List.singleton_append, List.takeWhile_cons_of_pos signed, none]
    have single : ¬ 1 < sign.length := by
      rcases signed with rfl | ⟨c, -, rfl⟩ <;> simp
    rw [List.cons_append, List.append_assoc, Json.exponent?, if_pos marked, front]
    dsimp only
    rw [if_neg single, List.drop_left, digits.digits? ends.endsDigits]
    rfl

/-! ## Literals

The parts in their order. A sign is told from the rest by its one character, so the literal is read
in the same way with and without it.
-/

/-- The first character of a literal. -/
theorem WritesNumber.head (written : WritesNumber cs) :
    ∃ c more, cs = c :: more ∧ (c = '-' ∨ c.isDigit = true) := by
  obtain ⟨signed, digits, -, -, -⟩ := written
  obtain ⟨d, more, same, digit⟩ := digits.exists_head
  rcases signed with rfl | rfl
  · exact ⟨d, _, by rw [same]; rfl, .inr digit⟩
  · exact ⟨'-', _, rfl, .inl rfl⟩

theorem WritesNumber.numberLiteral? (written : WritesNumber cs) (ends : EndsNumber rest) :
    numberLiteral? (cs ++ rest) = some cs := by
  obtain ⟨signed, digits, plain, broken, scaled⟩ := written
  have whole := digits.wholePart? plain (fraction_endsDigits broken scaled ends)
  have fraction := broken.fraction? scaled ends
  have exponent := scaled.exponent? ends
  obtain ⟨d, more, front, digit⟩ := digits.exists_head
  simp only [List.append_assoc]
  unfold Json.numberLiteral?
  rcases signed with rfl | rfl
  · -- without a sign, the first digit is not taken for one
    rw [front, List.cons_append] at whole ⊢
    rw [List.nil_append]
    split
    next apart =>
    split at apart
    · next minus =>
      obtain ⟨rfl, -⟩ := List.cons.inj minus
      cases digit
    · cases apart
      simp [whole, fraction, exponent]
  · -- with a sign
    simp [whole, fraction, exponent]

/-- A literal is read as the number that it writes. -/
theorem WritesNumber.readNumber? (written : WritesNumber cs) (ends : EndsNumber rest) :
    plainly (readNumber? (cs ++ rest)) = some (.number (String.ofList cs), rest) := by
  obtain ⟨c, more, front, -⟩ := written.head
  rw [plainly_eq_some_iff]
  have literal := written.numberLiteral? ends
  unfold Json.readNumber?
  split
  · next none => cases none.symm.trans literal
  · next found =>
    cases found.symm.trans literal
    rw [dif_pos ⟨by rw [front]; exact nofun, by rw [front]; exact nofun⟩]
    have longer : rest.length < (cs ++ rest).length := by
      rw [front, List.length_append, List.length_cons]
      omega
    exact ⟨longer, by simp only [List.drop_left]⟩

/-! ## Integers

A number is kept as the text of its literal. That of an integer is its decimal notation, in which no
zero stands before other digits.
-/

theorem toList_toString_int (n : Int) :
    ∃ sign m, (sign = [] ∨ sign = ['-']) ∧ (toString n).toList = sign ++ Nat.toDigits 10 m := by
  cases n with
  | ofNat m => exact ⟨[], m, .inl rfl, Nat.toList_repr⟩
  | negSucc m =>
    refine ⟨['-'], m + 1, .inr rfl, ?_⟩
    change ("-" ++ (m + 1).repr).toList = _
    rw [String.toList_append, Nat.toList_repr]
    rfl

/-- The decimal notation of an integer is a literal. -/
theorem writesNumber_int (n : Int) : WritesNumber (toString n).toList := by
  obtain ⟨sign, m, signed, same⟩ := toList_toString_int n
  have plain (d : Char) (more : List Char) : Nat.toDigits 10 m ≠ '0' :: d :: more := by
    intro zero
    cases Integer.toDigits_eq_zero_cons zero
  have written := WritesNumber.literal signed ⟨Nat.toDigits_ne_nil, isDigit_toDigits m⟩ plain
    .nothing .nothing
  rwa [List.append_nil, List.append_nil, ← same] at written

/-! ## Numbers of records

A record asks for a number below some bound, and accepts digits only.
-/

theorem natBelow?_int {n bound : Nat} (below : n < bound) :
    natBelow? bound (.int n) = some n := by
  change (Integer.ofDigits? (n.repr).toList).filter (· < bound) = _
  rw [Nat.toList_repr, ofDigits?_toDigits, Option.filter_some, if_pos (by simpa using below)]

end BrushScript.Json
