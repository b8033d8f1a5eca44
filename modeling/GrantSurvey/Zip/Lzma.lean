/-!
# Data in the LZMA format

Data is a row of literals and repetitions. Every choice in it is a bit with an estimated chance, and
all of them together are the digits of one number, which is read byte by byte. Chances are learnt:
each bit that is read moves its chance.
-/

namespace GrantSurvey.Zip.Lzma

inductive Fault where
  | exhausted
  | oddHeader (size : Nat)
  | badShape
  | corrupt
  deriving DecidableEq, Repr

def Fault.message : Fault → String
  | exhausted => "failed to fill whole buffer"
  | oddHeader size => s!"unexpected LZMA properties size of {size}"
  | badShape => "invalid props byte"
  | corrupt => "corrupted input data"

/-- The shape of the data: how many bits of the byte before a literal and of its place select its
chances, and how many bits of the place select those of other choices. -/
structure Shape where
  literalContext : Nat
  literalPlace : Nat
  place : Nat
  deriving DecidableEq, Repr

def Shape.ofByte? (byte : Nat) : Option Shape :=
  if byte < 225 then some ⟨byte % 9, byte / 9 % 5, byte / 45⟩ else none

/-! ## Chances

All chances stand in one row; a group of them starts at a place of its own. -/

def historyCount : Nat := 12

/-- Is there a repetition? By history and place. -/
def atRepetition : Nat := 0

/-- Is the distance a recent one? By history. -/
def atRecent : Nat := atRepetition + historyCount * 16

/-- Is it not the most recent one? By history. -/
def atOlder : Nat := atRecent + historyCount

def atThird : Nat := atOlder + historyCount

def atFourth : Nat := atThird + historyCount

/-- Is the most recent distance repeated for more than a byte? By history and place. -/
def atLong : Nat := atFourth + historyCount

/-- The digits of the size class of a distance. By class of the length. -/
def atSlot : Nat := atLong + historyCount * 16

def atMedium : Nat := atSlot + 4 * 64

def atLowest : Nat := atMedium + 128

def atLength : Nat := atLowest + 16

def lengthGroup : Nat := 2 + 16 * 8 + 16 * 8 + 256

def atRecentLength : Nat := atLength + lengthGroup

def atLiteral : Nat := atRecentLength + lengthGroup

def evenChances (shape : Shape) : Array Nat :=
  Array.replicate (atLiteral + 768 * Nat.pow 2 (shape.literalContext + shape.literalPlace)) 1024

/-! ## State -/

/-- What reading goes on from: the bytes that are left, the number and the width of the interval in
which it lies, the chances, the recent history and distances, and the bytes written so far. -/
structure State where
  input : List UInt8
  number : Nat
  width : Nat
  chances : Array Nat
  history : Nat
  distances : Nat × Nat × Nat × Nat
  output : Array UInt8

abbrev Reader := EStateM Fault State

def byte : Reader Nat := do
  match (← get).input with
  | [] => throw .exhausted
  | first :: input =>
      modify fun state => { state with input }
      return first.toNat

/-- Starts a number: a zero byte and four bytes of it. -/
def start : Reader Unit := do
  if (← byte) != 0 then throw .corrupt
  let a ← byte
  let b ← byte
  let c ← byte
  let d ← byte
  modify fun state => { state with
    number := ((a * 256 + b) * 256 + c) * 256 + d, width := 0xFFFFFFFF }

/-- Reads one more byte of the number when its interval has become narrow. -/
def widen : Reader Unit := do
  if (← get).width < 0x1000000 then
    let low ← byte
    modify fun state => { state with
      number := (state.number * 256 + low) % 0x100000000, width := state.width * 256 }

def bit (place : Nat) : Reader Nat := do
  widen
  let state ← get
  let chance := state.chances.getD place 0
  let bound := state.width / 2048 * chance
  -- Whatever the bit is, its chance grows by a thirty-second of what is missing to certainty.
  if state.number < bound then
    modify fun state => { state with
      width := bound
      chances := state.chances.setIfInBounds place (chance + (2048 - chance) / 32) }
    return 0
  else
    modify fun state => { state with
      number := state.number - bound
      width := state.width - bound
      chances := state.chances.setIfInBounds place (chance - chance / 32) }
    return 1

/-- Reads a number of even bits, highest first, which goes on from `high`. -/
def evenBits (high : Nat) : (count : Nat) → Reader Nat
  | 0 => return high
  | count + 1 => do
      widen
      let state ← get
      let width := state.width / 2
      let one := decide (width ≤ state.number)
      modify fun state => { state with
        width, number := if one then state.number - width else state.number }
      evenBits (2 * high + one.toNat) count

/-- Reads digits, highest first, each with a chance that depends on those before. -/
def digitsFrom (place node : Nat) : (count : Nat) → Reader Nat
  | 0 => return node
  | count + 1 => do
      let digit ← bit (place + node)
      digitsFrom place (2 * node + digit) count

def digits (place count : Nat) : Reader Nat := do
  return (← digitsFrom place 1 count) - Nat.pow 2 count

def lowDigits (place node : Nat) : (count : Nat) → Reader Nat
  | 0 => return 0
  | count + 1 => do
      let digit ← bit (place + node)
      return digit + 2 * (← lowDigits place (2 * node + digit) count)

/-! ## Literals and repetitions -/

def emit (byte : UInt8) : Reader Unit :=
  modify fun state => { state with output := state.output.push byte }

/-- The byte that was written some bytes ago; the last one is zero bytes ago. Before the first byte
there are zeros. -/
def past (output : Array UInt8) (distance : Nat) : UInt8 :=
  output.getD (output.size - 1 - distance) 0

/-- Reads the digits of a literal beside those of the byte that a repetition would give, as long as
they agree. -/
def besides (place guess node : Nat) : (count : Nat) → Reader Nat
  | 0 => return node
  | count + 1 => do
      let expected := (guess.testBit count).toNat
      let digit ← bit (place + 256 + 256 * expected + node)
      if digit == expected then besides place guess (2 * node + digit) count
      else digitsFrom place (2 * node + digit) count

def literal (shape : Shape) : Reader Unit := do
  let written := (← get).output.size
  let before := (past (← get).output 0).toNat
  let group := (written % Nat.pow 2 shape.literalPlace) * Nat.pow 2 shape.literalContext
    + before / Nat.pow 2 (8 - shape.literalContext)
  let place := atLiteral + 768 * group
  let guess := (past (← get).output (← get).distances.1).toNat
  let node ←
    if (← get).history < 7 then digitsFrom place 1 8 else besides place guess 1 8
  emit (UInt8.ofNat (node - 256))
  modify fun state => { state with
    history :=
      if state.history < 4 then 0 else if state.history < 10 then state.history - 3
      else state.history - 6 }

def length (place spot : Nat) : Reader Nat := do
  if (← bit place) == 0 then return 2 + (← digits (place + 2 + 8 * spot) 3)
  else if (← bit (place + 1)) == 0 then return 10 + (← digits (place + 130 + 8 * spot) 3)
  else return 18 + (← digits (place + 258) 8)

def distance (length : Nat) : Reader Nat := do
  let slot ← digits (atSlot + 64 * min (length - 2) 3) 6
  if slot < 4 then return slot
  else
    let count := slot / 2 - 1
    let base := (2 + slot % 2) * Nat.pow 2 count
    if slot < 14 then return base + (← lowDigits (atMedium + base - slot) 1 count)
    else
      let high ← evenBits 0 (count - 4)
      return base + 16 * high + (← lowDigits atLowest 1 4)

/-- Repeats what was written `distance` bytes ago, byte by byte. -/
def copy (distance : Nat) : (length : Nat) → Reader Unit
  | 0 => return ()
  | length + 1 => do
      emit (past (← get).output distance)
      copy distance length

def remember (early late : Nat) : Reader Unit :=
  modify fun state => { state with history := if state.history < 7 then early else late }

def endDistance : Nat := 0xFFFFFFFF

/-- Reads which of the older distances comes to the front. -/
def older (history : Nat) : Nat × Nat × Nat × Nat → Reader (Nat × Nat × Nat × Nat)
  | (first, second, third, fourth) => do
      if (← bit (atThird + history)) == 0 then return (second, first, third, fourth)
      else if (← bit (atFourth + history)) == 0 then return (third, first, second, fourth)
      else return (fourth, first, second, third)

def repetition (spot : Nat) : Reader (Nat × Nat) := do
  let (first, second, third, fourth) := (← get).distances
  let history := (← get).history
  if (← bit (atRecent + history)) == 0 then
    let length ← length atLength spot
    remember 7 10
    let distance ← distance length
    modify fun state => { state with distances := (distance, first, second, third) }
    return (distance, length)
  else if (← bit (atOlder + history)) == 0 then
    if (← bit (atLong + 16 * history + spot)) == 0 then
      remember 9 11
      return (first, 1)
    else
      let length ← length atRecentLength spot
      remember 8 11
      return (first, length)
  else
    let distances ← older history (first, second, third, fourth)
    modify fun state => { state with distances }
    let length ← length atRecentLength spot
    remember 8 11
    return (distances.1, length)

/-- Reads up to a size of the output, or up to the end mark. Every step writes a byte, so `fuel`
that counts bytes suffices. The result tells whether the end mark was met. -/
def body (shape : Shape) (window size : Nat) : (fuel : Nat) → Reader Bool
  | 0 => return false
  | fuel + 1 => do
      let written := (← get).output.size
      if size ≤ written then return false
      else
        let spot := written % Nat.pow 2 shape.place
        if (← bit (atRepetition + 16 * (← get).history + spot)) == 0 then
          literal shape
          body shape window size fuel
        else
          let (distance, length) ← repetition spot
          if distance == endDistance then return true
          else if min written window ≤ distance then throw .corrupt
          else
            -- A repetition may be longer than what is left of the stated size.
            copy distance (min length (size - written))
            body shape window size fuel

/-! ## Whole data -/

def initial (input : List UInt8) : State := {
  input
  number := 0
  width := 0
  chances := #[]
  history := 0
  distances := (0, 0, 0, 0)
  output := #[] }

def forget (shape : Shape) : Reader Unit :=
  modify fun state => { state with
    chances := evenChances shape, history := 0, distances := (0, 0, 0, 0) }

def bytes : (count : Nat) → Reader Nat
  | 0 => return 0
  | count + 1 => do
      let low ← byte
      return low + 256 * (← bytes count)

def leastWindow : Nat := 4096

/-- Reads the data of a member: a version, the size of the description, the shape and the window,
and then data up to a size. -/
def member (size : Nat) : Reader Unit := do
  let _ ← bytes 2
  let described ← bytes 2
  if described != 5 then throw (.oddHeader described)
  let shape := Shape.ofByte? (← byte)
  let window ← bytes 4
  match shape with
  | none => throw .badShape
  | some shape =>
      start
      forget shape
      let _ ← body shape (max leastWindow window) size (size + 1)

def decode (size : Nat) (data : List UInt8) : Except Fault (List UInt8) :=
  match (member size).run (initial data) with
  | .ok _ state => .ok state.output.toList
  | .error fault _ => .error fault

end GrantSurvey.Zip.Lzma
