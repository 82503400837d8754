import BrushScript.Text.Unprintable
import BrushScript.Text.Hexadecimal

/-!
# Quoted text in messages

A text stands in a message between double quotes. The quote, the backslash and the common controls
have short escapes, every other character that cannot be seen is written by its code point, and all
else stays as it is.

The listing of tokens shows all texts in this way, and so does the message about a colour name that
is blank. Whatever they hold, they stay on one line and end where they seem to end.
-/

namespace BrushScript.Text

/-- One character as it stands between quotes. -/
def quotedChar (c : Char) : String :=
  if c = '"' then "\\\""
  else if c = '\\' then "\\\\"
  else if c = '\n' then "\\n"
  else if c = '\r' then "\\r"
  else if c = '\t' then "\\t"
  else if c.toNat = 0 then "\\0"
  else if isUnprintable c then "\\u\x7b" ++ Hexadecimal.ofNat c.toNat ++ "\x7d"
  else c.toString

/-- A text between double quotes, with what cannot be seen escaped. -/
def quoted (s : String) : String := "\"" ++ String.join (s.toList.map quotedChar) ++ "\""

end BrushScript.Text
