import BrushScript.Syntax.Problem
import BrushScript.Syntax.Token
import BrushScript.Text.Blank
import BrushScript.Text.Numeric

/-!
# From text to tokens

The script is read from left to right, one piece at a time. `readPiece` looks at the first character
and tells what the piece is and how many further characters belong to it, so the pieces laid end to
end are the script. A piece is a blank, the end of a line, a token, or something unreadable, which
gives a problem and an `unknown` token and costs no other piece.

The list of tokens ends in its only `eof`. A break inside a text in quotes is not part of the text:
it ends the text, and still ends the statement.

A position counts lines and columns as the spans do, in 32 bits, so each wraps around after its
greatest value. A program built to stop at overflows reads no script that long; for every other
script the two agree. Nothing here looks at a line or a column again, so the pieces do not depend on
them.
-/

namespace BrushScript.Syntax.Lexer

/-! ## Positions -/

/-- A place between two characters: the bytes before it, and its line and column from one. -/
structure Position where
  offset : Nat
  line : UInt32
  column : UInt32
  deriving DecidableEq, Repr

namespace Position

/-- The beginning of a script. -/
def start : Position := ⟨0, 1, 1⟩

/-- The bytes of some text in UTF-8. -/
def byteLength : List Char → Nat
  | [] => 0
  | c :: rest => c.utf8Size + byteLength rest

/-- The place after some text on the same line. -/
def advance (p : Position) (text : List Char) : Position :=
  ⟨p.offset + byteLength text, p.line, p.column + text.length⟩

/-- The beginning of the next line. -/
def nextLine (p : Position) : Position := ⟨p.offset, p.line + 1, 1⟩

/-- The stretch between two places. -/
def spanTo (p q : Position) : Span := ⟨p.offset, q.offset, p.line, p.column⟩

end Position

/-! ## One piece -/

/-- What a piece of the script is. -/
inductive Piece where
  | blank
  | lineBreak
  | token (t : Token)
  | unreadable (text : String) (problem : LexicalProblem)
  deriving DecidableEq, Repr

/-- How many characters continue a name. Letters and number characters do; `_` and `-` do only right
before a letter, so that `x-1` is a subtraction. -/
def nameLength : List Char → Nat
  | [] => 0
  | c :: rest =>
    if Text.isAlphanumeric c then nameLength rest + 1
    else if (c = '_' || c = '-') && rest.head?.any Text.isAlphabetic then nameLength rest + 1
    else 0

/-- The token of a word: the jump, a built-in, or a name. -/
def ofWord (word : String) : Token :=
  if Text.caselessEq word "GoTo" then .goTo
  else
    match Builtin.lookup? word with
    | some b => .builtin b
    | none => .ident word

/-- The sign of two characters. -/
def doubleSign? : Char → Char → Option Sign
  | '<', '-' => some .assign
  | '*', '*' => some .starStar
  | '=', '=' => some .equal
  | '!', '=' => some .notEqual
  | '>', '=' => some .greaterEqual
  | '<', '=' => some .lessEqual
  | '&', '&' => some .and
  | '|', '|' => some .or
  | _, _ => none

/-- The sign of one character. -/
def singleSign? : Char → Option Sign
  | '+' => some .plus
  | '-' => some .minus
  | '*' => some .star
  | '/' => some .slash
  | '%' => some .percent
  | '<' => some .less
  | '>' => some .greater
  | '!' => some .bang
  | '(' => some .leftParen
  | ')' => some .rightParen
  | ',' => some .comma
  | '[' => some .leftBracket
  | ']' => some .rightBracket
  | _ => none

/-- The piece that begins with a character of a sign, and how much of the rest belongs to it. -/
def readSign (c : Char) (rest : List Char) : Piece × Nat :=
  match rest.head?.bind (doubleSign? c) with
  | some s => (.token (.sign s), 1)
  | none =>
    match singleSign? c with
    | some s => (.token (.sign s), 0)
    | none => (.unreadable c.toString (.operator c), 0)

/-- A character that may stand between the quotes of a text. -/
def isBody (c : Char) : Bool := c != '"' && c != '\n' && c != '\r'

/-- The text after an opening quote, and how much of the rest belongs to it. A line break ends the
text and stays outside it, so that it still ends the statement. -/
def readString (rest : List Char) : Piece × Nat :=
  let body := rest.takeWhile isBody
  match rest[body.length]? with
  | some '"' => (.token (.string (String.ofList body)), body.length + 1)
  | some _ => (.unreadable (String.ofList ('"' :: body) ++ "...") .newlineInString, body.length)
  | none => (.unreadable (String.ofList ('"' :: body)) .unterminatedString, body.length)

/-- The piece that begins with a character, and how many characters of the rest belong to it. -/
def readPiece (c : Char) (rest : List Char) : Piece × Nat :=
  if c = '\n' then (.lineBreak, 0)
  else if c = '\r' then (.lineBreak, if rest.head? = some '\n' then 1 else 0)
  else if Text.isBlank c then (.blank, 0)
  else if c.isDigit then
    let digits := rest.takeWhile Char.isDigit
    (.token (.number (String.ofList (c :: digits))), digits.length)
  else if c = '"' then readString rest
  else if Text.isAlphabetic c then
    let n := nameLength rest
    (.token (ofWord (String.ofList (c :: rest.take n))), n)
  else if "+-*/%<>=!&|(),[]".toList.contains c then readSign c rest
  else (.unreadable c.toString (.character c), 0)

/-! ## The whole script -/

/-- Tokens, and the problems found on the way. -/
structure Result where
  tokens : List (Located Token)
  problems : List (Located LexicalProblem)
  deriving DecidableEq, Repr

/-- The tokens of what follows a place. -/
def lexFrom (here : Position) : List Char → Result
  | [] => ⟨[⟨.eof, here.spanTo here⟩], []⟩
  | c :: rest =>
    let (piece, n) := readPiece c rest
    let after := here.advance (c :: rest.take n)
    let span := here.spanTo after
    match piece with
    | .blank => lexFrom after (rest.drop n)
    | .lineBreak =>
      let later := lexFrom after.nextLine (rest.drop n)
      { later with tokens := ⟨.newline, span⟩ :: later.tokens }
    | .token t =>
      let later := lexFrom after (rest.drop n)
      { later with tokens := ⟨t, span⟩ :: later.tokens }
    | .unreadable text problem =>
      let later := lexFrom after (rest.drop n)
      ⟨⟨.unknown text, span⟩ :: later.tokens, ⟨problem, span⟩ :: later.problems⟩
termination_by cs => cs.length
decreasing_by all_goals simp only [List.length_drop, List.length_cons]; omega

/-- The tokens of a script. -/
def lex (source : String) : Result := lexFrom .start source.toList

end BrushScript.Syntax.Lexer
