import GrantSurvey.Text.Hexadecimal
import GrantSurvey.Text.Utf8

/-!
# Percent encoding

A character that may not stand in some part of a URL is written as the bytes of its UTF-8 form,
each as a percent sign and two hexadecimal digits. Which ASCII characters are so written depends on
the part; controls and characters beyond ASCII always are.
-/

namespace GrantSurvey.Url

open Text (hexDigit?)

/-- A part of a URL, as far as it decides which characters are written as bytes. -/
inductive Part where
  | user
  | host
  | segment
  | wholePath
  | query
  | webQuery
  | fragment
  deriving DecidableEq, Repr

/-- The printable ASCII characters that are written as bytes in a part. -/
def Part.reserved : Part → List Char
  | user => " \"<>`#?^\x7b\x7d/:;=@[\\]|".toList
  | host => []
  | segment => " \"<>`#?^\x7b\x7d".toList
  | wholePath => []
  | query => " \"#<>".toList
  | webQuery => " \"#<>'".toList
  | fragment => " \"<>`".toList

def Part.encodes (part : Part) (char : Char) : Bool :=
  char.toNat < 0x20 || 0x7F ≤ char.toNat || part.reserved.contains char

def upperDigit (value : Nat) : Char :=
  if value < 10 then Char.ofNat ('0'.toNat + value) else Char.ofNat ('A'.toNat + (value - 10))

def escaped (byte : UInt8) : List Char :=
  ['%', upperDigit (byte.toNat / 16), upperDigit (byte.toNat % 16)]

def Part.encode (part : Part) (text : List Char) : String :=
  String.ofList (text.flatMap fun char =>
    if part.encodes char then (Utf8.encodeChar char).flatMap escaped else [char])

/-- The byte that a percent sign and two characters stand for. -/
def escapedByte? (high low : Char) : Option UInt8 := do
  return UInt8.ofNat ((← hexDigit? high) * 16 + (← hexDigit? low))

/-- The bytes that a text stands for. A percent sign that no two digits follow stands for itself. -/
def decodedBytes : List Char → List UInt8
  | '%' :: high :: low :: rest =>
      match escapedByte? high low with
      | some byte => byte :: decodedBytes rest
      | none => Utf8.encodeChar '%' ++ decodedBytes (high :: low :: rest)
  | char :: rest => Utf8.encodeChar char ++ decodedBytes rest
  | [] => []
  termination_by text => text.length

end GrantSurvey.Url
