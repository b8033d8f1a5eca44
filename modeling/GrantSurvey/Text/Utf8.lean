/-!
# UTF-8

Well-formed UTF-8 as a decoder over byte lists, with a strict and a forgiving reading. A decoding
step looks at one lead byte and what follows; it either yields a scalar value and the number of
further bytes that it took, or the lead starts no well-formed sequence. The forgiving reading then
replaces the longest start of a sequence by one replacement character.
-/

namespace GrantSurvey.Utf8

def isContinuation (byte : UInt8) : Bool :=
  0x80 ≤ byte && byte ≤ 0xBF

def payload (byte : UInt8) : Nat :=
  byte.toNat % 64

/-- Is `second` allowed after the lead of a three-byte sequence? Overlong forms and surrogates are
not. -/
def opensThree (lead second : UInt8) : Bool :=
  if lead == 0xE0 then 0xA0 ≤ second && second ≤ 0xBF
  else if lead == 0xED then 0x80 ≤ second && second ≤ 0x9F
  else 0xE0 ≤ lead && lead ≤ 0xEF && isContinuation second

/-- Is `second` allowed after the lead of a four-byte sequence? Overlong forms and values beyond
the last code point are not. -/
def opensFour (lead second : UInt8) : Bool :=
  if lead == 0xF0 then 0x90 ≤ second && second ≤ 0xBF
  else if lead == 0xF4 then 0x80 ≤ second && second ≤ 0x8F
  else 0xF1 ≤ lead && lead ≤ 0xF3 && isContinuation second

def scalarOfTwo (lead second : UInt8) : Char :=
  Char.ofNat (lead.toNat % 32 * 64 + payload second)

def scalarOfThree (lead second third : UInt8) : Char :=
  Char.ofNat (lead.toNat % 16 * 4096 + payload second * 64 + payload third)

def scalarOfFour (lead second third fourth : UInt8) : Char :=
  Char.ofNat
    (lead.toNat % 8 * 262144 + payload second * 4096 + payload third * 64 + payload fourth)

/-- The scalar value that starts at `lead`, with the number of further bytes that it takes. -/
def scalar? (lead : UInt8) (rest : List UInt8) : Option (Char × Nat) :=
  if lead < 0x80 then some (Char.ofNat lead.toNat, 0)
  else if 0xC2 ≤ lead && lead ≤ 0xDF then
    match rest with
    | second :: _ => if isContinuation second then some (scalarOfTwo lead second, 1) else none
    | [] => none
  else if 0xE0 ≤ lead && lead ≤ 0xEF then
    match rest with
    | second :: third :: _ =>
        if opensThree lead second && isContinuation third then
          some (scalarOfThree lead second third, 2)
        else none
    | _ => none
  else
    match rest with
    | second :: third :: fourth :: _ =>
        if opensFour lead second && isContinuation third && isContinuation fourth then
          some (scalarOfFour lead second third fourth, 3)
        else none
    | _ => none

/-- How many bytes after an ill-formed `lead` still belong to the start of a sequence. -/
def brokenTail (lead : UInt8) : List UInt8 → Nat
  | [] => 0
  | second :: rest =>
      if opensThree lead second then 1
      else if opensFour lead second then
        match rest with
        | third :: _ => if isContinuation third then 2 else 1
        | [] => 1
      else 0

/-- The text of well-formed bytes; `none` if any byte is out of place. -/
def decode? : List UInt8 → Option (List Char)
  | [] => some []
  | lead :: rest =>
      match scalar? lead rest with
      | some (char, taken) => (decode? (rest.drop taken)).map (char :: ·)
      | none => none
  termination_by bytes => bytes.length
  decreasing_by simp only [List.length_drop, List.length_cons]; omega

/-- The character that stands for an ill-formed sequence. -/
def replacement : Char := '�'

/-- The text of any bytes: every longest start of an ill-formed sequence is replaced. -/
def decodeLossy : List UInt8 → List Char
  | [] => []
  | lead :: rest =>
      match scalar? lead rest with
      | some (char, taken) => char :: decodeLossy (rest.drop taken)
      | none => replacement :: decodeLossy (rest.drop (brokenTail lead rest))
  termination_by bytes => bytes.length
  decreasing_by all_goals simp only [List.length_drop, List.length_cons]; omega

def encodeChar (char : Char) : List UInt8 :=
  let code := char.toNat
  if code < 0x80 then [UInt8.ofNat code]
  else if code < 0x800 then
    [UInt8.ofNat (0xC0 + code / 64), UInt8.ofNat (0x80 + code % 64)]
  else if code < 0x10000 then
    [UInt8.ofNat (0xE0 + code / 4096), UInt8.ofNat (0x80 + code / 64 % 64),
      UInt8.ofNat (0x80 + code % 64)]
  else
    [UInt8.ofNat (0xF0 + code / 262144), UInt8.ofNat (0x80 + code / 4096 % 64),
      UInt8.ofNat (0x80 + code / 64 % 64), UInt8.ofNat (0x80 + code % 64)]

def encode (text : List Char) : List UInt8 :=
  text.flatMap encodeChar

def text? (bytes : List UInt8) : Option String :=
  (decode? bytes).map String.ofList

def textLossy (bytes : List UInt8) : String :=
  String.ofList (decodeLossy bytes)

def bytes (text : String) : List UInt8 :=
  encode text.toList

end GrantSurvey.Utf8
