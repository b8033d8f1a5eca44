import GrantSurvey.Zip.Bytes
import GrantSurvey.Zip.Checksum
import GrantSurvey.Zip.Lzma

/-!
# Data in the xz format

A stream has a header, blocks, an index of the blocks and a footer. A block is a row of chunks, each
stored as it is or compressed; a chunk says how much of what was learnt before is to be forgotten.
The bytes of a block are followed by a checksum.
-/

namespace GrantSurvey.Zip.Xz

open Lzma (Reader)

inductive Fault where
  | exhausted
  | noHeader
  | corrupt
  deriving DecidableEq, Repr

def Fault.message : Fault → String
  | exhausted => "failed to fill whole buffer"
  | noHeader => "invalid XZ magic bytes"
  | corrupt => "corrupted input data"

/-- A reader of a stream. The state is the bytes that are left. -/
abbrev StreamReader := EStateM Fault (List UInt8)

def take (count : Nat) : StreamReader (List UInt8) := do
  let bytes ← get
  if bytes.length < count then throw .exhausted
  set (bytes.drop count)
  return bytes.take count

def number (width : Nat) : StreamReader Nat :=
  littleEndian <$> take width

def require (condition : Bool) : StreamReader Unit := do
  if !condition then throw .corrupt

/-! ## Checksums -/

def wideChecksum (bytes : List UInt8) : UInt64 :=
  let shiftOut (remainder : UInt64) : UInt64 :=
    if remainder &&& 1 == 1 then (remainder >>> 1) ^^^ 0xC96C5795D7870F42 else remainder >>> 1
  let step (remainder : UInt64) (byte : UInt8) : UInt64 :=
    Nat.repeat shiftOut 8 (remainder ^^^ byte.toUInt64)
  bytes.foldl step 0xFFFFFFFFFFFFFFFF ^^^ 0xFFFFFFFFFFFFFFFF

def checkSize (kind : Nat) : Nat :=
  if kind == 0 then 0 else Nat.pow 2 (2 + (kind - 1) / 3)

/-- Does a checksum of a kind fit some bytes? Long checksums are not looked into. -/
def isRight (kind : Nat) (bytes check : List UInt8) : Bool :=
  if kind == 1 then littleEndian check == (checksum bytes).toNat
  else if kind == 4 then littleEndian check == (wideChecksum bytes).toNat
  else true

/-- Reads `size` bytes that are followed by their checksum. -/
def checked (size : Nat) : StreamReader (List UInt8) := do
  let bytes ← take size
  require ((← number 4) == (checksum bytes).toNat)
  return bytes

/-! ## Chunks -/

def storedChunk : (count : Nat) → Reader Unit
  | 0 => return ()
  | count + 1 => do
      Lzma.emit (UInt8.ofNat (← Lzma.byte))
      storedChunk count

/-- Reads a number of two bytes, highest first, that is one less than a size. -/
def chunkSize (high : Nat) : Reader Nat := do
  let middle ← Lzma.byte
  let low ← Lzma.byte
  return high * 65536 + middle * 256 + low + 1

def emptied : Reader (Array UInt8) := do
  let output := (← get).output
  modify fun state => { state with output := #[] }
  return output

/-- Reads a compressed chunk of so many bytes, which stands for `size` bytes. -/
def compressedChunk (shape : Lzma.Shape) (window size count : Nat) : Reader Unit := do
  let input := (← get).input
  Lzma.start
  let target := (← get).output.size + size
  if ← Lzma.body shape window target (size + 1) then throw .corrupt
  modify fun state => { state with input := input.drop count }

/-- Reads chunks up to the end mark. The shape is that of the chunk before. What was written before
the window was emptied is kept in `done`. -/
def chunks (window : Nat) :
    (fuel : Nat) → Option Lzma.Shape → Array UInt8 → Reader (Array UInt8)
  | 0, _, _ => throw .exhausted
  | fuel + 1, shape, done => do
      let control ← Lzma.byte
      if control == 0 then return done ++ (← get).output
      else
        -- Of compressed chunks, the greater the control byte, the more is reset: the chances, the
        -- shape too, or even the window.
        let empties := control == 1 || 0xE0 ≤ control
        let done ← if empties then (done ++ ·) <$> emptied else pure done
        if control < 3 then
          storedChunk (← chunkSize 0)
          chunks window fuel shape done
        else if control < 0x80 then throw .corrupt
        else
          let size ← chunkSize (control % 32)
          let count ← chunkSize 0
          let shape ← if 0xC0 ≤ control then Lzma.Shape.ofByte? <$> Lzma.byte else pure shape
          match shape with
          | none => throw .corrupt
          | some shape =>
              if 0xA0 ≤ control then Lzma.forget shape
              compressedChunk shape window size count
              chunks window fuel (some shape) done

/-! ## Streams -/

/-- Reads a number whose bytes say whether another one follows, of `fuel` bytes at most. -/
def sizeWithin : (fuel : Nat) → StreamReader Nat
  | 0 => throw .corrupt
  | fuel + 1 => do
      let byte ← number 1
      if byte < 128 then return byte else return byte - 128 + 128 * (← sizeWithin fuel)

def size : StreamReader Nat := sizeWithin 9

def window (byte : Nat) : Nat :=
  (2 + byte % 2) * Nat.pow 2 (byte / 2 + 11)

/-- Reads the header of a block behind its size byte; the result is the window. -/
def blockHeader (sizeByte : Nat) : StreamReader Nat := do
  let header ← take (4 * (sizeByte + 1) - 5)
  let sum ← number 4
  require (sum == (checksum (UInt8.ofNat sizeByte :: header)).toNat)
  let rest ← get
  set header
  let flags ← number 1
  require (flags % 64 == 0)
  if flags.testBit 6 then
    let _ ← size
  if flags.testBit 7 then
    let _ ← size
  require ((← size) == 0x21)
  require ((← size) == 1)
  let described ← number 1
  require (described ≤ 40)
  require ((← get).all (· == 0))
  set rest
  return window described

def padding (count : Nat) : StreamReader Unit := do
  require ((← take ((4 - count % 4) % 4)).all (· == 0))

def block (kind sizeByte : Nat) : StreamReader (List UInt8) := do
  let window ← blockHeader sizeByte
  let before ← get
  match (chunks window (before.length + 1) none #[]).run (Lzma.initial before) with
  | .error .exhausted _ => throw .exhausted
  | .error _ _ => throw .corrupt
  | .ok bytes state =>
      set state.input
      padding (before.length - state.input.length)
      require (isRight kind bytes.toList (← take (checkSize kind)))
      return bytes.toList

def records : (count : Nat) → StreamReader Unit
  | 0 => return ()
  | count + 1 => do
      let _ ← size
      let _ ← size
      records count

/-- Reads the index of `count` blocks behind its mark, and the footer. -/
def index (count : Nat) (flags : List UInt8) : StreamReader Unit := do
  let before ← get
  require ((← size) == count)
  records count
  padding (1 + before.length - (← get).length)
  let written := before.take (before.length - (← get).length)
  require ((← number 4) == (checksum (0 :: written)).toNat)
  let sum ← number 4
  let footer ← take 6
  require (sum == (checksum footer).toNat && footer.drop 4 == flags)
  require ((← take 2) == [0x59, 0x5A])

def blocks (flags : List UInt8) (kind : Nat) :
    (fuel : Nat) → (count : Nat) → Array UInt8 → StreamReader (Array UInt8)
  | 0, _, _ => throw .exhausted
  | fuel + 1, count, bytes => do
      let sizeByte ← number 1
      if sizeByte == 0 then
        index count flags
        return bytes
      else blocks flags kind fuel (count + 1) (bytes ++ (← block kind sizeByte).toArray)

def stream : StreamReader (Array UInt8) := do
  if (← take 6) != [0xFD, 0x37, 0x7A, 0x58, 0x5A, 0x00] then throw .noHeader
  let flags ← checked 2
  let kind := littleEndian (flags.drop 1)
  require (flags.head? == some 0 && kind < 16)
  let fuel := (← get).length + 1
  blocks flags kind fuel 0 #[]

/-- The bytes that a stream stands for. What follows the stream does not matter. -/
def decode (data : List UInt8) : Except Fault (List UInt8) :=
  match stream.run data with
  | .ok bytes _ => .ok bytes.toList
  | .error fault _ => .error fault

end GrantSurvey.Zip.Xz
