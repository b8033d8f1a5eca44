import GrantSurvey.Json.Real
import GrantSurvey.Json.Value
import GrantSurvey.Text.Hexadecimal

/-!
# Reading JSON

A strict reader: no comments, no trailing commas, no text after the value, no lone surrogates, no
numbers out of range, and at most 127 levels of arrays and objects. The members of an object come
out sorted by name; of members with one name the last counts.
-/

namespace GrantSurvey.Json

open Text (hexDigit?)

inductive ParseFault where
  | unexpectedEnd
  | unexpectedCharacter (char : Char)
  | controlCharacter
  | invalidEscape
  | loneSurrogate
  | invalidNumber
  | numberOutOfRange
  | nestedTooDeep
  | trailingCharacters
  deriving DecidableEq, Repr

def ParseFault.message : ParseFault → String
  | unexpectedEnd => "unexpected end of text"
  | unexpectedCharacter char => s!"unexpected character {char}"
  | controlCharacter => "control character in a string"
  | invalidEscape => "invalid escape"
  | loneSurrogate => "lone surrogate in an escape"
  | invalidNumber => "invalid number"
  | numberOutOfRange => "number out of range"
  | nestedTooDeep => "nested too deeply"
  | trailingCharacters => "trailing characters"

namespace Parser

/-- Reads a value off the front of a text and yields the characters after it. -/
abbrev ValueReader := List Char → Except ParseFault (Json × List Char)

def maxDepth : Nat := 127

def isBlank (char : Char) : Bool :=
  char == ' ' || char == '\n' || char == '\t' || char == '\r'

def skipBlanks (text : List Char) : List Char :=
  text.dropWhile isBlank

def word (value : Json) : List Char → List Char → Except ParseFault (Json × List Char)
  | [], text => .ok (value, text)
  | expected :: others, char :: text =>
      if char == expected then word value others text else .error (.unexpectedCharacter char)
  | _ :: _, [] => .error .unexpectedEnd

/-! ## Strings -/

def hexNumber? (a b c d : Char) : Option Nat := do
  let a ← hexDigit? a
  let b ← hexDigit? b
  let c ← hexDigit? c
  let d ← hexDigit? d
  return ((a * 16 + b) * 16 + c) * 16 + d

def shortEscape? (char : Char) : Option Char :=
  match char with
  | '"' => some '"'
  | '\\' => some '\\'
  | '/' => some '/'
  | 'b' => some (Char.ofNat 8)
  | 'f' => some (Char.ofNat 12)
  | 'n' => some '\n'
  | 'r' => some '\r'
  | 't' => some '\t'
  | _ => none

/-- The character of an escape by number whose digits the text starts with, and how many characters
the escape takes. A pair of surrogates is one character. -/
def numberEscape (text : List Char) : Except ParseFault (Char × Nat) :=
  match text with
  | a :: b :: c :: d :: text =>
      match hexNumber? a b c d with
      | none => .error .invalidEscape
      | some code =>
          if 0xDC00 ≤ code && code ≤ 0xDFFF then .error .loneSurrogate
          else if 0xD800 ≤ code && code ≤ 0xDBFF then
            match text with
            | '\\' :: 'u' :: a :: b :: c :: d :: _ =>
                match hexNumber? a b c d with
                | none => .error .invalidEscape
                | some low =>
                    if 0xDC00 ≤ low && low ≤ 0xDFFF then
                      .ok (Char.ofNat (0x10000 + (code - 0xD800) * 1024 + (low - 0xDC00)), 10)
                    else .error .loneSurrogate
            | _ => .error .loneSurrogate
          else .ok (Char.ofNat code, 4)
  | _ => .error .unexpectedEnd

def stringRest : List Char → Except ParseFault (List Char × List Char)
  | [] => .error .unexpectedEnd
  | '"' :: text => .ok ([], text)
  | '\\' :: text =>
      match text with
      | [] => .error .unexpectedEnd
      | escape :: text =>
          if escape == 'u' then
            match numberEscape text with
            | .error fault => .error fault
            | .ok (char, length) => do
                let (chars, text) ← stringRest (text.drop length)
                return (char :: chars, text)
          else
            match shortEscape? escape with
            | none => .error .invalidEscape
            | some char => do
                let (chars, text) ← stringRest text
                return (char :: chars, text)
  | char :: text =>
      if char.toNat < 32 then .error .controlCharacter
      else do
        let (chars, text) ← stringRest text
        return (char :: chars, text)
  termination_by text => text.length
  decreasing_by all_goals simp only [List.length_drop, List.length_cons]; omega

/-! ## Numbers -/

def maxUnsigned : Nat := 18446744073709551615

/-- Adds digits to a significand as long as it fits into 64 bits. Yields the significand and how
many digits were added. -/
def accumulate (significand : Nat) : List Char → Nat × Nat
  | [] => (significand, 0)
  | digit :: digits =>
      let next := significand * 10 + (digit.toNat - '0'.toNat)
      if next ≤ maxUnsigned then
        let (total, added) := accumulate next digits
        (total, added + 1)
      else (significand, 0)

/-- A power of ten, for exponents at which it is a number of its own. -/
def powerOfTen? (exponent : Nat) : Option Real :=
  if exponent ≤ 308 then Real.ofQuotient? (Nat.pow 10 exponent) 1 else none

/-- Divides by a power of ten in steps that each have an own power of ten. -/
def scaleDown (real : Real) : Nat → Nat → Except ParseFault Real
  | 0, _ => .ok real
  | steps + 1, exponent =>
      if real.mantissa = 0 then .ok real
      else if exponent ≤ 308 then
        .ok (((powerOfTen? exponent).bind real.div?).getD Real.zero)
      else
        scaleDown (((powerOfTen? 308).bind real.div?).getD Real.zero) steps (exponent - 308)

/-- The number `significand * 10 ^ exponent`, rounded once for the significand, once for the power
of ten, and once for the result. -/
def realOf (significand : Nat) (exponent : Int) : Except ParseFault Real :=
  match Real.ofQuotient? significand 1 with
  | none => .error .numberOutOfRange
  | some real =>
      if exponent < 0 then
        scaleDown real ((-exponent).toNat / 308 + 1) (-exponent).toNat
      else if 308 < exponent then
        if real.mantissa = 0 then .ok real else .error .numberOutOfRange
      else
        match (powerOfTen? exponent.toNat).bind real.mul? with
        | some product => .ok product
        | none => .error .numberOutOfRange

structure NumberParts where
  negative : Bool
  whole : List Char
  fraction : Option (List Char)
  exponent : Option (Bool × List Char)

def fractionPart (text : List Char) : Except ParseFault (Option (List Char) × List Char) :=
  match text with
  | '.' :: text =>
      let digits := text.takeWhile Char.isDigit
      if digits.isEmpty then .error .invalidNumber
      else .ok (some digits, text.dropWhile Char.isDigit)
  | text => .ok (none, text)

/-- An optional exponent: is it negative, and its digits. -/
def exponentPart (text : List Char) :
    Except ParseFault (Option (Bool × List Char) × List Char) :=
  match text with
  | char :: text =>
      if char == 'e' || char == 'E' then
        let (negative, text) :=
          match text with
          | '+' :: text => (false, text)
          | '-' :: text => (true, text)
          | text => (false, text)
        let digits := text.takeWhile Char.isDigit
        if digits.isEmpty then .error .invalidNumber
        else .ok (some (negative, digits), text.dropWhile Char.isDigit)
      else .ok (none, char :: text)
  | [] => .ok (none, [])

def numberParts (text : List Char) : Except ParseFault (NumberParts × List Char) := do
  let (negative, text) :=
    match text with
    | '-' :: text => (true, text)
    | text => (false, text)
  let whole := text.takeWhile Char.isDigit
  if whole.isEmpty || (whole.head? == some '0' && 1 < whole.length) then
    .error .invalidNumber
  else
    let (fraction, text) ← fractionPart (text.dropWhile Char.isDigit)
    let (exponent, text) ← exponentPart text
    return ({ negative, whole, fraction, exponent }, text)

def digitsValue (digits : List Char) : Nat :=
  digits.foldl (fun value digit => value * 10 + (digit.toNat - '0'.toNat)) 0

/-- The real number of the parts. Digits beyond 64 bits only count by their places. -/
def NumberParts.real (parts : NumberParts) : Except ParseFault Real :=
  let (significand, used) := accumulate 0 parts.whole
  let dropped := parts.whole.length - used
  let (significand, places) := accumulate significand (parts.fraction.getD [])
  let start : Int := (dropped : Int) - places
  match parts.exponent with
  | none => realOf significand start
  | some (negative, digits) =>
      let value := digitsValue digits
      if 2147483647 < value then
        if significand ≠ 0 && !negative then .error .numberOutOfRange else .ok Real.zero
      else realOf significand (if negative then start - value else start + value)

/-- The decimal text of the parts: a whole number of 64 bits as such, anything else as a real
number. -/
def NumberParts.text (parts : NumberParts) : Except ParseFault String :=
  let value := digitsValue parts.whole
  let sign := if parts.negative then "-" else ""
  let fits := if parts.negative then 0 < value && value ≤ 9223372036854775808
    else value ≤ maxUnsigned
  if parts.fraction.isNone && parts.exponent.isNone && fits then
    .ok (sign ++ toString value)
  else do
    let real ← parts.real
    return sign ++ real.text

def number (text : List Char) : Except ParseFault (Json × List Char) := do
  let (parts, text) ← numberParts text
  return (.number (← parts.text), text)

/-! ## Arrays, objects and values -/

/-- Puts a member at its place among members sorted by name; it replaces one of the same name. -/
def insertMember (name : String) (value : Json) : List (String × Json) → List (String × Json)
  | [] => [(name, value)]
  | (first, other) :: members =>
      if name < first then (name, value) :: (first, other) :: members
      else if name == first then (name, value) :: members
      else (first, other) :: insertMember name value members

def itemsRest (value : ValueReader) :
    Nat → List Char → Except ParseFault (List Json × List Char)
  | 0, _ => .error .unexpectedEnd
  | steps + 1, text => do
      let (item, text) ← value (skipBlanks text)
      match skipBlanks text with
      | ',' :: text =>
          let (items, text) ← itemsRest value steps text
          return (item :: items, text)
      | ']' :: text => return ([item], text)
      | char :: _ => .error (.unexpectedCharacter char)
      | [] => .error .unexpectedEnd

/-- The members of an object from its first member on, in the order of the text. -/
def membersRest (value : ValueReader) :
    Nat → List Char → Except ParseFault (List (String × Json) × List Char)
  | 0, _ => .error .unexpectedEnd
  | steps + 1, text => do
      match skipBlanks text with
      | '"' :: text =>
          let (name, text) ← stringRest text
          match skipBlanks text with
          | ':' :: text =>
              let (item, text) ← value (skipBlanks text)
              let member := (String.ofList name, item)
              match skipBlanks text with
              | ',' :: text =>
                  let (members, text) ← membersRest value steps text
                  return (member :: members, text)
              | '}' :: text => return ([member], text)
              | char :: _ => .error (.unexpectedCharacter char)
              | [] => .error .unexpectedEnd
          | char :: _ => .error (.unexpectedCharacter char)
          | [] => .error .unexpectedEnd
      | char :: _ => .error (.unexpectedCharacter char)
      | [] => .error .unexpectedEnd

def arrayRest (value : ValueReader) : ValueReader := fun text =>
  match skipBlanks text with
  | ']' :: text => .ok (.array [], text)
  | text => do
      let (items, rest) ← itemsRest value (text.length + 1) text
      return (.array items, rest)

def objectRest (value : ValueReader) : ValueReader := fun text =>
  match skipBlanks text with
  | '}' :: text => .ok (.object [], text)
  | text => do
      let (members, rest) ← membersRest value (text.length + 1) text
      let sorted := members.foldl (fun sorted (name, item) => insertMember name item sorted) []
      return (.object sorted, rest)

/-- A value of at most `depth` levels that the text starts with. -/
def value : (depth : Nat) → ValueReader
  | _, [] => .error .unexpectedEnd
  | _, 'n' :: text => word .null ['u', 'l', 'l'] text
  | _, 't' :: text => word (.bool true) ['r', 'u', 'e'] text
  | _, 'f' :: text => word (.bool false) ['a', 'l', 's', 'e'] text
  | _, '"' :: text => do
      let (chars, text) ← stringRest text
      return (.string (String.ofList chars), text)
  | 0, '[' :: _ => .error .nestedTooDeep
  | 0, '{' :: _ => .error .nestedTooDeep
  | depth + 1, '[' :: text => arrayRest (value depth) text
  | depth + 1, '{' :: text => objectRest (value depth) text
  | _, char :: text =>
      if char == '-' || char.isDigit then number (char :: text)
      else .error (.unexpectedCharacter char)

end Parser

def parse (text : String) : Except ParseFault Json := do
  let (value, rest) ← Parser.value Parser.maxDepth (Parser.skipBlanks text.toList)
  if (Parser.skipBlanks rest).isEmpty then return value else .error .trailingCharacters

end GrantSurvey.Json
