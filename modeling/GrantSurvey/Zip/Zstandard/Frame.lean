import GrantSurvey.Zip.Zstandard.Sequences

/-!
# Data in the Zstandard format

Data is a row of frames. A frame has a header, blocks and, if the header says so, a checksum. A
block is stored, one byte repeated, or compressed; compressed blocks go on with the codes and the
recent distances of the block before. Frames may also hold bytes that are to be skipped.
-/

namespace GrantSurvey.Zip.Zstandard

inductive Fault where
  | exhausted
  | noFrame
  | oddFrame
  | largeWindow
  | dictionary
  | corrupt
  | badChecksum
  deriving DecidableEq, Repr

def Fault.message : Fault → String
  | exhausted => "incomplete frame"
  | noFrame => "Unknown frame descriptor"
  | oddFrame => "Unsupported frame parameter"
  | largeWindow => "Frame requires too much memory for decoding"
  | dictionary => "Dictionary mismatch"
  | corrupt => "Data corruption detected"
  | badChecksum => "Restored data doesn't match checksum"

/-! ## Checksums -/

namespace Digest

def primes : UInt64 × UInt64 × UInt64 × UInt64 × UInt64 :=
  (0x9E3779B185EBCA87, 0xC2B2AE3D27D4EB4F, 0x165667B19E3779F9, 0x85EBCA77C2B2AE63,
    0x27D4EB2F165667C5)

def turn (word count : UInt64) : UInt64 :=
  (word <<< count) ||| (word >>> (64 - count))

def round (lane word : UInt64) : UInt64 :=
  turn (lane + word * primes.2.1) 31 * primes.1

def merge (digest lane : UInt64) : UInt64 :=
  (digest ^^^ round 0 lane) * primes.1 + primes.2.2.2.1

def word (bytes : List UInt8) : UInt64 :=
  UInt64.ofNat (littleEndian bytes)

def stripes : (count : Nat) → List UInt8 → UInt64 × UInt64 × UInt64 × UInt64 →
    UInt64 × UInt64 × UInt64 × UInt64
  | 0, _, lanes => lanes
  | count + 1, bytes, (a, b, c, d) =>
      stripes count (bytes.drop 32)
        (round a (word (bytes.take 8)), round b (word ((bytes.drop 8).take 8)),
          round c (word ((bytes.drop 16).take 8)), round d (word ((bytes.drop 24).take 8)))

def tail : (fuel : Nat) → List UInt8 → UInt64 → UInt64
  | 0, _, digest => digest
  | fuel + 1, bytes, digest =>
      if 8 ≤ bytes.length then
        tail fuel (bytes.drop 8)
          (turn (digest ^^^ round 0 (word (bytes.take 8))) 27 * primes.1 + primes.2.2.2.1)
      else if 4 ≤ bytes.length then
        tail fuel (bytes.drop 4)
          (turn (digest ^^^ word (bytes.take 4) * primes.1) 23 * primes.2.1 + primes.2.2.1)
      else
        match bytes with
        | [] => digest
        | byte :: bytes =>
            tail fuel bytes (turn (digest ^^^ byte.toUInt64 * primes.2.2.2.2) 11 * primes.1)

def ofBytes (bytes : List UInt8) : UInt64 :=
  let count := bytes.length / 32
  let start :=
    if count == 0 then primes.2.2.2.2
    else
      let (a, b, c, d) := stripes count bytes (primes.1 + primes.2.1, primes.2.1, 0, 0 - primes.1)
      merge (merge (merge (merge (turn a 1 + turn b 7 + turn c 12 + turn d 18) a) b) c) d
  let rest := bytes.drop (32 * count)
  let mixed := tail (rest.length + 1) rest (start + UInt64.ofNat bytes.length)
  let mixed := (mixed ^^^ (mixed >>> 33)) * primes.2.1
  let mixed := (mixed ^^^ (mixed >>> 29)) * primes.2.2.1
  mixed ^^^ (mixed >>> 32)

end Digest

/-! ## Headers -/

/-- A reader of frames. The state is the bytes that are left. -/
abbrev FrameReader := EStateM Fault (List UInt8)

def take (count : Nat) : FrameReader (List UInt8) := do
  let bytes ← get
  if bytes.length < count then throw .exhausted
  set (bytes.drop count)
  return bytes.take count

def number (width : Nat) : FrameReader Nat :=
  littleEndian <$> take width

/-- What the header of a frame says: the greatest size of a block, the size of the content if it is
stated, and whether there is a checksum. -/
structure Header where
  blockLimit : Nat
  contentSize : Option Nat
  hasChecksum : Bool

def blockLimit : Nat := 131072

def windowLimit : Nat := 134217729

def windowOf (byte : Nat) : Nat :=
  let base := Nat.pow 2 (10 + byte / 8)
  base + base / 8 * (byte % 8)

def header : FrameReader Header := do
  let descriptor ← number 1
  let single := descriptor.testBit 5
  let sizeForm := descriptor / 64
  let windowByte ← if single then pure 0 else number 1
  let dictionary ← number ([0, 1, 2, 4].getD (descriptor % 4) 0)
  let contentSize ←
    if sizeForm == 0 && !single then pure none
    else
      let size ← number ([1, 2, 4, 8].getD sizeForm 0)
      pure (some (if sizeForm == 1 then size + 256 else size))
  if descriptor.testBit 3 then throw .oddFrame
  if 22 ≤ windowByte / 8 then throw .largeWindow
  if dictionary != 0 then throw .dictionary
  let window := if single then contentSize.getD 0 else windowOf windowByte
  if windowLimit < window then throw .largeWindow
  return ⟨min window blockLimit, contentSize, descriptor.testBit 2⟩

/-! ## Blocks -/

/-- What a block goes on with: the code for literals, the tables, the recent distances, and the
output of the frame. -/
structure Progress where
  code : Option Inflate.Code
  tables : Option Tables
  recent : Recent
  output : Array UInt8

def Progress.start : Progress := ⟨none, none, ⟨1, 4, 8⟩, #[]⟩

def Progress.compressed? (progress : Progress) (bytes : List UInt8) : Option Progress := do
  let literals ← Literals.ofBytes? progress.code bytes
  let (sequences, tables) ← sequences? progress.tables literals.rest
  let (output, recent) ←
    carryOut? sequences.toList progress.recent literals.bytes progress.output
  return ⟨literals.code, tables, recent, output⟩

def blocks (limit : Nat) : (fuel : Nat) → Progress → FrameReader (Array UInt8)
  | 0, _ => throw .exhausted
  | fuel + 1, progress => do
      let header ← number 3
      let size := header / 8
      let progress ← match header / 2 % 4 with
        | 0 =>
            if limit < size then throw .corrupt
            else pure { progress with output := progress.output ++ (← take size).toArray }
        | 1 =>
            if limit < size then throw .corrupt
            else
              let byte ← number 1
              pure { progress with
                output := progress.output ++ Array.replicate size (UInt8.ofNat byte) }
        | 2 =>
            if limit < size then throw .corrupt
            else
              match progress.compressed? (← take size) with
              | some next =>
                  if limit < next.output.size - progress.output.size then throw .corrupt
                  else pure next
              | none => throw .corrupt
        | _ => throw .corrupt
      if header.testBit 0 then return progress.output else blocks limit fuel progress

/-! ## Frames -/

def frame : FrameReader (Array UInt8) := do
  let header ← header
  let fuel := (← get).length + 1
  let output ← blocks header.blockLimit fuel .start
  if header.contentSize.any (· != output.size) then throw .corrupt
  if header.hasChecksum then
    let stated ← number 4
    if stated != (Digest.ofBytes output.toList).toNat % 0x100000000 then throw .badChecksum
  return output

def startsMark (bytes : List UInt8) : Bool :=
  match bytes.take 4 with
  | [] => true
  | first :: rest =>
      first == 0x28 && rest.isPrefixOf [0xB5, 0x2F, 0xFD]
        || first / 16 == 5 && rest.isPrefixOf [0x2A, 0x4D, 0x18]

def frames : (fuel : Nat) → Array UInt8 → FrameReader (Array UInt8)
  | 0, output => return output
  | fuel + 1, output => do
      if !startsMark (← get) then throw .noFrame
      let mark ← number 4
      let more ←
        if mark % 256 == 0x28 then frame
        else
          let _ ← take (← number 4)
          pure #[]
      if (← get).isEmpty then return output ++ more else frames fuel (output ++ more)

def decode (data : List UInt8) : Except Fault (List UInt8) :=
  match (frames (data.length + 1) #[]).run data with
  | .ok bytes _ => .ok bytes.toList
  | .error fault _ => .error fault

end GrantSurvey.Zip.Zstandard
