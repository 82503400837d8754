import BrushScript.Integer

/-!
# Decimal notation

The digits of a number write the number, and only zero has a zero in front. So a number without a
sign is read back from its notation, as long as it fits (`natural?_repr`, `decimal?_repr`).

The notation itself is the one of the library, whose laws say that its digits are digits and that
they add up to the number. What is added here is about the two characters that a reader looks at
before the digits: a sign, which no digit is (`exists_toDigits`), and a zero in front, which JSON
allows only if nothing follows it (`toDigits_eq_zero_cons`).
-/

namespace BrushScript.Integer

theorem isDigit_toDigits (n : Nat) : ∀ c ∈ Nat.toDigits 10 n, c.isDigit = true :=
  fun _ mem => Nat.isDigit_of_mem_toDigits (by decide) (by decide) mem

theorem ofDigits?_toDigits (n : Nat) : ofDigits? (Nat.toDigits 10 n) = some n := by
  rw [ofDigits?, if_pos ⟨Nat.toDigits_ne_nil, List.all_eq_true.mpr (isDigit_toDigits n)⟩]
  exact congrArg some Nat.ofDigitChars_ten_toDigits

/-- Zero alone has a zero in front. -/
theorem toDigits_eq_zero_cons {n : Nat} {more : List Char}
    (front : Nat.toDigits 10 n = '0' :: more) : more = [] := by
  induction n using Nat.strongRecOn generalizing more with
  | ind n ih =>
    rw [Nat.toDigits_eq_if (by decide)] at front
    split at front
    · exact (List.cons.inj front).2.symm
    · next large =>
      -- a zero in front of the tens would make all of them zero
      exfalso
      obtain ⟨d, tens, same⟩ := List.exists_cons_of_ne_nil (Nat.toDigits_ne_nil (n := n / 10))
      rw [same, List.cons_append] at front
      obtain ⟨rfl, -⟩ := List.cons.inj front
      obtain rfl := ih (n / 10) (by omega) same
      have zero := ofDigits?_toDigits (n / 10)
      rw [same] at zero
      have : n / 10 = 0 := (Option.some.inj zero).symm
      omega

/-- Digits are no sign. -/
theorem exists_toDigits (n : Nat) :
    ∃ d more, Nat.toDigits 10 n = d :: more ∧ d ≠ '+' ∧ d ≠ '-' := by
  obtain ⟨d, more, same⟩ := List.exists_cons_of_ne_nil (Nat.toDigits_ne_nil (n := n) (b := 10))
  have digit := isDigit_toDigits n d (by rw [same]; exact List.mem_cons_self)
  refine ⟨d, more, same, ?_, ?_⟩ <;> rintro rfl <;> exact absurd digit (by decide)

theorem natural?_repr (n : Nat) : natural? n.repr = some n := by
  obtain ⟨d, more, same, notPlus, -⟩ := exists_toDigits n
  have read := ofDigits?_toDigits n
  rw [natural?, Nat.toList_repr]
  rw [same] at read ⊢
  split
  · next plus => exact absurd (List.cons.inj plus).1 notPlus
  · exact read

theorem decimal?_repr {n : Nat} {m : Int64} (fits : m.toInt = n) : decimal? n.repr = some m := by
  obtain ⟨d, more, same, -, notMinus⟩ := exists_toDigits n
  rw [decimal?, Nat.toList_repr, same]
  split
  · next minus => exact absurd (List.cons.inj minus).1 notMinus
  · rw [natural?_repr]
    exact ofInt?_eq_some_iff.mpr fits

end BrushScript.Integer
