import TilingConfig.Text.Numeral
import TilingConfig.Text.Shape

/-!
# Texts in quotes

The form in which a text is shown in a report: in double quotes, on one line, and
with everything that could not be seen written by name or number.
-/

namespace TilingConfig.Text

/-- A character as written between quotes. -/
def quotedChar (c : Char) : String :=
  if c == '"' then "\\\""
  else if c == '\\' then "\\\\"
  else if c == '\t' then "\\t"
  else if c == '\n' then "\\n"
  else if c == '\r' then "\\r"
  else if c == '\x00' then "\\0"
  else if isShapeless c then "\\u\x7b" ++ hexadecimal c.toNat ++ "\x7d"
  else c.toString

/-- A text in quotes. -/
def quoted (text : String) : String :=
  "\"" ++ String.join (text.toList.map quotedChar) ++ "\""

/-- A text in quotes, if there is one, in the wording of an optional value. -/
def quotedOption : Option String → String
  | some text => "Some(" ++ quoted text ++ ")"
  | none => "None"

end TilingConfig.Text
