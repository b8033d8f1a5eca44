/-!
# Names in ASCII letters

A label of a domain that holds other characters than ASCII ones is sent as ASCII: first its ASCII
characters in order, then a hyphen, then where each other character goes and which one it is. The
others are taken in the order of their code points. Between two of them lies a number of places and
code points that are passed over, and that number is written with 36 digits in such a way that its
last digit can be told, by thresholds that adapt to the numbers so far.
-/

namespace GrantSurvey.Url.Domain.Punycode

def base : Nat := 36

def firstCode : Nat := 0x80

def firstBias : Nat := 72

/-- The digit below which the digit at a position is the last one. -/
def threshold (bias position : Nat) : Nat :=
  if position ≤ bias then 1 else if bias + 26 ≤ position then 26 else position - bias

theorem threshold_pos (bias position : Nat) : 0 < threshold bias position := by
  unfold threshold
  split
  · omega
  · split <;> omega

/-- Divides a number until it is small, and counts the digits that this saves. -/
def shrink (number position : Nat) : Nat × Nat :=
  if 455 < number then shrink (number / 35) (position + base) else (number, position)
  termination_by number
  decreasing_by exact Nat.div_lt_self (by omega) (by omega)

/-- The bias after a number, when the text has a length. -/
def adapt (number length : Nat) (isFirst : Bool) : Nat :=
  let damped := if isFirst then number / 700 else number / 2
  let (small, position) := shrink (damped + damped / length) 0
  position + base * small / (small + 38)

def digit? (char : Char) : Option Nat :=
  if 'a' ≤ char && char ≤ 'z' then some (char.toNat - 'a'.toNat)
  else if 'A' ≤ char && char ≤ 'Z' then some (char.toNat - 'A'.toNat)
  else if '0' ≤ char && char ≤ '9' then some (char.toNat - '0'.toNat + 26)
  else none

def digitChar (value : Nat) : Char :=
  if value < 26 then Char.ofNat ('a'.toNat + value) else Char.ofNat ('0'.toNat + (value - 26))

/-! ## Reading -/

/-- A text that is being read: the text so far, the last character that went in and its place, and
the number that is being read, with the weight and the position of its next digit. -/
structure Reading where
  text : List Char
  code : Nat
  place : Nat
  bias : Nat
  number : Nat
  weight : Nat
  position : Nat

def numberLimit : Nat := 4294967296

def Reading.insert? (state : Reading) (number : Nat) : Option Reading :=
  let length := state.text.length + 1
  let passed := state.place + number
  let code := state.code + passed / length
  let place := passed % length
  if code.isValidChar then
    some { text := state.text.take place ++ Char.ofNat code :: state.text.drop place
           code := code
           place := place + 1
           bias := adapt number length (state.place == 0)
           number := 0
           weight := 1
           position := base }
  else none

def Reading.digit? (state : Reading) (char : Char) : Option Reading := do
  let value ← Punycode.digit? char
  let number := state.number + value * state.weight
  let last := threshold state.bias state.position
  if numberLimit ≤ number then none
  else if value < last then state.insert? number
  else
    let weight := state.weight * (base - last)
    if numberLimit ≤ weight then none
    else some { state with number, weight, position := state.position + base }

/-- The ASCII characters of an encoded label, and the digits behind them. -/
def divide (label : List Char) : List Char × List Char :=
  let digits := (label.reverse.takeWhile (· != '-')).reverse
  let ascii := label.take (label.length - digits.length - 1)
  if ascii.isEmpty then ([], label) else (ascii, digits)

def decode? (label : List Char) : Option (List Char) := do
  let (ascii, digits) := divide label
  let state ← digits.foldlM Reading.digit? ⟨ascii, firstCode, 0, firstBias, 0, 1, base⟩
  if state.position == base then some state.text else none

/-! ## Writing -/

def digits (bias position number : Nat) : List Char :=
  let last := threshold bias position
  if number < last then [digitChar number]
  else
    digitChar (last + (number - last) % (base - last))
      :: digits bias (position + base) ((number - last) / (base - last))
  termination_by number
  decreasing_by
    have positive := threshold_pos bias position
    exact Nat.lt_of_le_of_lt (Nat.div_le_self _ _) (by omega)

/-- An encoded label that is being written: its digits, the places passed over since the last
character, and how many characters are done. -/
structure Writing where
  digits : List Char
  passed : Nat
  bias : Nat
  done : Nat

/-- Passes over one character of the text, while those with one code point are written. -/
def Writing.pass (ascii code : Nat) (state : Writing) (char : Char) : Writing :=
  if char.toNat < code then { state with passed := state.passed + 1 }
  else if char.toNat == code then
    { digits := state.digits ++ Punycode.digits state.bias base state.passed
      passed := 0
      bias := adapt state.passed (state.done + 1) (state.done == ascii)
      done := state.done + 1 }
  else state

/-- Writes all characters with the given code points, which ascend from `next` on. -/
def Writing.all (text : List Char) (ascii : Nat) (next : Nat) : List Nat → Writing → Writing
  | [], state => state
  | code :: codes, state =>
      let jumped := { state with passed := state.passed + (code - next) * (state.done + 1) }
      let passed := text.foldl (Writing.pass ascii code) jumped
      Writing.all text ascii (code + 1) codes { passed with passed := passed.passed + 1 }

def encode (text : List Char) : List Char :=
  let ascii := text.filter fun char => char.toNat < firstCode
  let codes := (text.map Char.toNat).filter fun code => firstCode ≤ code
  let ascending := (codes.mergeSort (· ≤ ·)).eraseDups
  let written := Writing.all text ascii.length firstCode ascending
    ⟨[], 0, firstBias, ascii.length⟩
  if ascii.isEmpty then written.digits else ascii ++ '-' :: written.digits

end GrantSurvey.Url.Domain.Punycode
