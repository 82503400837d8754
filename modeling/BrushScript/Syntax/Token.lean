import BrushScript.Syntax.Builtin
import BrushScript.Text.Quoted

/-!
# Tokens

The words and signs of a script. Numbers, texts and names carry what they spell; the end of a line
is a token, because it ends a statement, and so is the end of the script. What the lexer could not
read stands among the tokens as `unknown`.

A number carries its digits and not its value, since whether it has a value of 64 bits is for the
parser to say. A text carries what stands between its quotation marks; there are no escapes. A word
of the language is a token of its own in whatever case it is written, so no variable and no label
can have its name.
-/

namespace BrushScript.Syntax

/-- Signs of one or two characters. -/
inductive Sign where
  | leftParen
  | rightParen
  | leftBracket
  | rightBracket
  | comma
  | assign
  | plus
  | minus
  | star
  | starStar
  | slash
  | percent
  | less
  | greater
  | lessEqual
  | greaterEqual
  | equal
  | notEqual
  | and
  | or
  | bang
  deriving DecidableEq, Repr

/-- The name of a sign in a token listing. -/
def Sign.name : Sign → String
  | leftParen => "LParen"
  | rightParen => "RParen"
  | leftBracket => "LBracket"
  | rightBracket => "RBracket"
  | comma => "Comma"
  | assign => "Assign"
  | plus => "Plus"
  | minus => "Minus"
  | star => "Star"
  | starStar => "StarStar"
  | slash => "Slash"
  | percent => "Percent"
  | less => "Lt"
  | greater => "Gt"
  | lessEqual => "Le"
  | greaterEqual => "Ge"
  | equal => "EqEq"
  | notEqual => "Ne"
  | and => "And"
  | or => "Or"
  | bang => "Bang"

/-- All signs. -/
def Sign.all : List Sign :=
  [leftParen, rightParen, leftBracket, rightBracket, comma, assign, plus, minus, star, starStar,
    slash, percent, less, greater, lessEqual, greaterEqual, equal, notEqual, and, or, bang]

/-- Tokens of a script. -/
inductive Token where
  | number (digits : String)
  | string (body : String)
  | ident (name : String)
  | builtin (b : Builtin)
  | goTo
  | sign (s : Sign)
  | newline
  | unknown (text : String)
  | eof
  deriving DecidableEq, Repr

/-- The token in a listing: its kind, with the text it carries. -/
def Token.describe : Token → String
  | number digits => "Number(" ++ Text.quoted digits ++ ")"
  | string body => "Str(" ++ Text.quoted body ++ ")"
  | ident name => "Ident(" ++ Text.quoted name ++ ")"
  | builtin b => "Builtin(" ++ b.name ++ ")"
  | goTo => "GoTo"
  | sign s => s.name
  | newline => "Newline"
  | unknown text => "Unknown(" ++ Text.quoted text ++ ")"
  | eof => "Eof"

end BrushScript.Syntax
