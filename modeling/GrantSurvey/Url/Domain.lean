import GrantSurvey.Text.Split
import GrantSurvey.Text.Utf8
import GrantSurvey.Url.Domain.Label

/-!
# Domain names

A domain is written in any script and sent in ASCII letters. Its characters are replaced, composed
and divided into labels; some ASCII characters may not remain in it. Then every label is checked,
and put into ASCII letters.
-/

namespace GrantSurvey.Url.Domain

/-- What stands for a character in a domain; `none` if it may not be part of one. -/
def mapped? (char : Char) : Option (List Char) :=
  if char.toNat < 0x80 then some [char.toLower]
  else if isRefused char then none
  else if isIgnored char then some []
  else
    match replacement? char with
    | some text => some text.toList
    | none => some [char]

def isForbidden (char : Char) : Bool :=
  char.toNat ≤ 0x20 || char.toNat == 0x7F || "%#/:<>?@[\\]^|".toList.contains char

/-- The characters of a domain with each replaced by what stands for it. -/
def replaced? (text : List Char) : Option (List Char) :=
  (text.mapM mapped?).map List.flatten

def labels? (text : List Char) : Option (List (List Char)) := do
  let name := composed (← replaced? text)
  if name.any isForbidden then none else some (Text.split '.' name)

/-- A domain in ASCII letters, or `none` if it is no domain. -/
def toAscii? (text : List Char) : Option (List Char) := do
  let labels ← labels? text
  let meanings ← labels.mapM meaning?
  if meanings.any (·.any turnsLeft) && !meanings.all keepsDirection then none
  else return ['.'].intercalate (← labels.mapM inAscii?)

end GrantSurvey.Url.Domain
