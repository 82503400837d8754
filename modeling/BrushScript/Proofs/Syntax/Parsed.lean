import BrushScript.Syntax.Parser

/-!
# When parsers succeed

`Parsed.Yields a rest` says that a parser gave a value and which tokens it left. Every way of
putting parsers together has one lemma that says when the whole yields something in terms of the
parts, so a proof about a parser follows its text from the front to the back.

A parser that was run keeps the proof that what it left is an end of its tokens. `Yields` leaves it
out, and takes it in again only where one parser goes on behind another (`yields_andThen_iff`),
because there it is what makes the recursion end.
-/

namespace BrushScript.Syntax.Parser

namespace Parsed

variable {α β : Type} {ts rest : Tokens} {a b : α} {c : β}

/-- The parser gave a value and left some tokens. -/
def Yields (p : Parsed α ts) (a : α) (rest : Tokens) : Prop := p.outcome = .ok a ∧ p.rest = rest

theorem yields_accept_iff : (accept a ts).Yields b rest ↔ b = a ∧ rest = ts := by
  constructor
  · rintro ⟨same, left⟩
    exact ⟨(Except.ok.inj same).symm, left.symm⟩
  · rintro ⟨rfl, rfl⟩
    exact ⟨rfl, rfl⟩

theorem yields_accept (a : α) (ts : Tokens) : (accept a ts).Yields a ts := ⟨rfl, rfl⟩

theorem not_yields_error {e : Located ParseProblem} {left : Tokens} {suffix : left <:+ ts} :
    ¬ (⟨.error e, left, suffix⟩ : Parsed α ts).Yields a rest := by
  rintro ⟨same, -⟩
  cases same

theorem not_yields_reject {problem : ParseProblem} {stop : Span} :
    ¬ (reject problem stop ts : Parsed α ts).Yields a rest := not_yields_error

theorem yields_after_iff {p : Parsed α ts} {t : Located Token} :
    (p.after t).Yields a rest ↔ p.Yields a rest := Iff.rfl

theorem yields_map_iff {p : Parsed α ts} {f : α → β} :
    (p.map f).Yields c rest ↔ ∃ a, p.Yields a rest ∧ f a = c := by
  obtain ⟨outcome, left, suffix⟩ := p
  cases outcome with
  | error e =>
    constructor
    · intro h
      exact absurd h not_yields_error
    · rintro ⟨a, h, -⟩
      exact absurd h not_yields_error
  | ok value =>
    constructor
    · rintro ⟨same, rfl⟩
      exact ⟨value, ⟨rfl, rfl⟩, Except.ok.inj same⟩
    · rintro ⟨a, ⟨same, rfl⟩, rfl⟩
      cases same
      exact ⟨rfl, rfl⟩

theorem yields_andThen_iff {p : Parsed α ts}
    {f : α → (mid : Tokens) → mid <:+ ts → Parsed β mid} :
    (p.andThen f).Yields c rest ↔
      ∃ a mid suffix, p.Yields a mid ∧ (f a mid suffix).Yields c rest := by
  obtain ⟨outcome, left, suffix⟩ := p
  cases outcome with
  -- nothing goes on behind a parser that failed
  | error e =>
    constructor
    · intro h
      exact absurd h not_yields_error
    · rintro ⟨a, mid, _, h, -⟩
      exact absurd h not_yields_error
  | ok value =>
    constructor
    · intro h
      exact ⟨value, left, suffix, ⟨rfl, rfl⟩, h⟩
    · rintro ⟨a, mid, _, ⟨same, rfl⟩, h⟩
      cases same
      exact h

end Parsed

theorem yields_expect_iff {s : Sign} {problem : ParseProblem} {stop span : Span}
    {ts rest : Tokens} :
    (expect s problem stop ts).Yields span rest ↔ ts = ⟨.sign s, span⟩ :: rest := by
  cases ts with
  -- no tokens are left to expect anything of
  | nil => exact ⟨fun h => absurd h Parsed.not_yields_reject, nofun⟩
  | cons t ts =>
    rw [expect]
    split
    · next sign =>
      rw [Parsed.yields_after_iff, Parsed.yields_accept_iff]
      constructor
      · rintro ⟨rfl, rfl⟩
        rw [← sign]
      · intro h
        cases h
        exact ⟨rfl, rfl⟩
    · next other =>
      refine ⟨fun h => absurd h Parsed.not_yields_reject, fun h => ?_⟩
      cases h
      exact absurd rfl other

end BrushScript.Syntax.Parser
