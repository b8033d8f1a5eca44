import GrantSurvey.Text.Utf8

/-!
# The text encoding of class files

Class files write text in a variant of UTF-8: the zero character takes two bytes, and characters
beyond the first 65536 are written as a pair of surrogates of three bytes each. Texts in the wild
also use plain UTF-8, or neither, so `classText` tries plain UTF-8, then the variant, and at last
a salvage reading that accepts any bytes.
-/

namespace GrantSurvey.ModifiedUtf8

open Utf8 (isContinuation payload scalarOfTwo scalarOfThree opensThree)

def isHighHalf (second : UInt8) : Bool :=
  0xA0 ≤ second && second ≤ 0xAF

def isLowHalf (second : UInt8) : Bool :=
  0xB0 ≤ second && second ≤ 0xBF

/-- The character that a pair of surrogates stands for, from the two last bytes of each. -/
def scalarOfPair (high₂ high₃ low₂ low₃ : UInt8) : Char :=
  Char.ofNat (0x10000 + (high₂.toNat % 16 * 64 + payload high₃) * 1024
    + (low₂.toNat % 16 * 64 + payload low₃))

/-- The character that starts at `lead`, with the number of further bytes that it takes. -/
def scalar? (lead : UInt8) (rest : List UInt8) : Option (Char × Nat) :=
  if lead == 0 then none
  else if lead < 0x80 then some (Char.ofNat lead.toNat, 0)
  else if lead == 0xC0 then
    match rest with
    | second :: _ => if second == 0x80 then some (Char.ofNat 0, 1) else none
    | [] => none
  else if 0xC2 ≤ lead && lead ≤ 0xDF then
    match rest with
    | second :: _ => if isContinuation second then some (scalarOfTwo lead second, 1) else none
    | [] => none
  else
    match rest with
    | second :: third :: rest =>
        if opensThree lead second && isContinuation third then
          some (scalarOfThree lead second third, 2)
        else if lead == 0xED && isHighHalf second && isContinuation third then
          match rest with
          | lead' :: second' :: third' :: _ =>
              if lead' == 0xED && isLowHalf second' && isContinuation third' then
                some (scalarOfPair second third second' third', 5)
              else none
          | _ => none
        else none
    | _ => none

/-- The text of bytes in the variant; `none` if any byte is out of place. -/
def decode? : List UInt8 → Option (List Char)
  | [] => some []
  | lead :: rest =>
      match scalar? lead rest with
      | some (char, taken) => (decode? (rest.drop taken)).map (char :: ·)
      | none => none
  termination_by bytes => bytes.length
  decreasing_by simp only [List.length_drop, List.length_cons]; omega

/-- The character for a code point, or `?` for a surrogate. -/
def charOrMark (code : Nat) : Char :=
  if code.isValidChar then Char.ofNat code else '?'

/-- The best reading of the bytes at `lead`, with the number of further bytes that it takes. -/
def salvageStep (lead : UInt8) (rest : List UInt8) : Char × Nat :=
  let inThree := 0xE0 ≤ lead && lead ≤ 0xEF
  match rest with
  | second :: rest =>
      let pair? : Option Char :=
        match rest with
        | third :: lead' :: second' :: third' :: _ =>
            if lead == 0xED && isHighHalf second && isContinuation third
                && lead' == 0xED && isLowHalf second' && isContinuation third' then
              some (scalarOfPair second third second' third')
            else none
        | _ => none
      match pair? with
      | some char => (char, 5)
      | none =>
          if inThree && isContinuation second then
            match rest with
            | third :: _ =>
                if isContinuation third then
                  (charOrMark (lead.toNat % 16 * 4096 + payload second * 64 + payload third), 2)
                else ('?', 1)
            | [] => ('?', 1)
          else if 0xC0 ≤ lead && lead ≤ 0xDF && isContinuation second then
            (charOrMark (lead.toNat % 32 * 64 + payload second), 1)
          else if lead < 0x80 then (Char.ofNat lead.toNat, 0)
          else ('?', 0)
  | [] => if lead < 0x80 then (Char.ofNat lead.toNat, 0) else ('?', 0)

/-- A reading of any bytes: what is no character becomes `?`. -/
def salvage : List UInt8 → List Char
  | [] => []
  | lead :: rest =>
      let step := salvageStep lead rest
      step.1 :: salvage (rest.drop step.2)
  termination_by bytes => bytes.length
  decreasing_by simp only [List.length_drop, List.length_cons]; omega

def classText (bytes : List UInt8) : String :=
  String.ofList (((Utf8.decode? bytes).orElse fun _ => decode? bytes).getD (salvage bytes))

def encodeChar (char : Char) : List UInt8 :=
  let code := char.toNat
  if code = 0 then [0xC0, 0x80]
  else if code < 0x10000 then Utf8.encodeChar char
  else
    let high := (code - 0x10000) / 1024
    let low := (code - 0x10000) % 1024
    [0xED, UInt8.ofNat (0xA0 + high / 64), UInt8.ofNat (0x80 + high % 64),
      0xED, UInt8.ofNat (0xB0 + low / 64), UInt8.ofNat (0x80 + low % 64)]

def encode (text : List Char) : List UInt8 :=
  text.flatMap encodeChar

end GrantSurvey.ModifiedUtf8
