import GrantSurvey.Text.Shapeless

/-!
# Quoted texts

A text between double quotes, written so that every character of it can be told: the quote, the
backslash and the common controls have short escapes, and a character without a shape of its own is
shown by its number.
-/

namespace GrantSurvey.Text

def numbered (char : Char) : String :=
  "\\u\x7b" ++ String.ofList (Nat.toDigits 16 char.toNat) ++ "\x7d"

def quotedChar (char : Char) : String :=
  if char == Char.ofNat 0 then "\\0"
  else if char == '\t' then "\\t"
  else if char == '\n' then "\\n"
  else if char == '\r' then "\\r"
  else if char == '"' then "\\\""
  else if char == '\\' then "\\\\"
  else if Shapeless.isShapeless char then numbered char
  else String.singleton char

def quoted (text : String) : String :=
  "\"" ++ String.join (text.toList.map quotedChar) ++ "\""

end GrantSurvey.Text
