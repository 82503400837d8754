import BrushScript.Syntax.Problem
import BrushScript.Syntax.Token

/-!
# What a parser gives

A parser looks at tokens from the front and stops somewhere among them, whether it found what it was
looking for or not: where it stopped is where the reading goes on after a problem. So a `Parsed` is
an outcome together with the tokens that are left, which are always a suffix of those it started
with. `Parsed.andThen` puts parsers behind one another; the first problem ends the row, in front of
the token it is about.

That the rest is a suffix is what makes the parsers end: one that goes on behind another one is
given the proof with the tokens that are left.
-/

namespace BrushScript.Syntax.Parser

/-- Tokens still to be read. -/
abbrev Tokens := List (Located Token)

/-- The place of the next token; behind the last one, the place given for that. -/
def place (stop : Span) : Tokens → Span
  | [] => stop
  | t :: _ => t.span

/-- What parsing some tokens came to: a value or a problem, and what is left of the tokens. -/
structure Parsed (α : Type) (ts : Tokens) where
  outcome : Except (Located ParseProblem) α
  rest : Tokens
  suffix : rest <:+ ts

namespace Parsed

variable {α β : Type} {ts : Tokens}

/-- A value, for which no token was read. -/
def accept (a : α) (ts : Tokens) : Parsed α ts := ⟨.ok a, ts, List.suffix_rfl⟩

/-- A problem with the next token, which stays unread. -/
def reject (problem : ParseProblem) (stop : Span) (ts : Tokens) : Parsed α ts :=
  ⟨.error ⟨problem, place stop ts⟩, ts, List.suffix_rfl⟩

/-- The same with one more token read before. -/
def after (t : Located Token) (p : Parsed α ts) : Parsed α (t :: ts) :=
  ⟨p.outcome, p.rest, p.suffix.trans (List.suffix_cons t ts)⟩

/-- Go on with the value, on the tokens that are left. -/
def andThen (p : Parsed α ts) (f : α → (rest : Tokens) → rest <:+ ts → Parsed β rest) :
    Parsed β ts :=
  match p.outcome with
  | .ok a =>
    let q := f a p.rest p.suffix
    ⟨q.outcome, q.rest, q.suffix.trans p.suffix⟩
  | .error e => ⟨.error e, p.rest, p.suffix⟩

/-- The value changed, if there is one. -/
def map (f : α → β) (p : Parsed α ts) : Parsed β ts := ⟨p.outcome.map f, p.rest, p.suffix⟩

end Parsed
end BrushScript.Syntax.Parser
