import GrantSurvey.Text.Utf8
import GrantSurvey.Zip.Bytes
import GrantSurvey.Zip.Checksum
import GrantSurvey.Zip.Fault

/-!
# Extra fields

A directory header may be followed by extra fields, each with a kind and a length. Some of them
change what the header says: sizes that are too large for it, a name or a comment in UTF-8, and how
the data is locked. Others are only checked, and the rest is skipped.
-/

namespace GrantSurvey.Zip

structure Listing where
  rawName : List UInt8
  name : String
  comment : String
  encrypted : Bool
  locked : Bool
  method : Nat
  checksum : Nat
  size : Nat
  fullSize : Nat
  header : Nat
  deriving DecidableEq, Repr

def lockedMethod : Nat := 99

def wideLimit : Nat := 0xFFFFFFFFFFFFFFFF

namespace ExtraField

abbrev FieldReader := StateT (List UInt8) (Except Fault)

def take (count : Nat) : FieldReader (List UInt8) := do
  let bytes ← get
  if bytes.length < count then throw .exhausted
  set (bytes.drop count)
  return bytes.take count

def number (width : Nat) : FieldReader Nat :=
  littleEndian <$> take width

def skip (count : Nat) : FieldReader Unit := do
  let _ ← take count

/-! ## Sizes -/

/-- Reads the wide form of a number if there is one, from a field with `left` bytes. A full field
has them all; any other has those that the header could not hold. -/
def wideNumber (full : Bool) (left value : Nat) : FieldReader (Nat × Nat) := do
  if full || value == longLimit then
    if left < 8 then throw .badExtraField
    return (← number 8, left - 8)
  else return (value, left)

def sizes (listing : Listing) (length : Nat) : FieldReader Listing := do
  let full := 24 ≤ length
  let (fullSize, left) ← wideNumber full length listing.fullSize
  let (size, left) ← wideNumber full left listing.size
  let (header, left) ← wideNumber full left listing.header
  skip left
  return { listing with fullSize, size, header }

/-! ## Times -/

def tickTimes (length : Nat) : FieldReader Unit := do
  if length != 32 then throw .unknownExtraField
  skip 4
  if (← number 2) != 1 then throw .unknownExtraField
  if (← number 2) != 24 then throw .unknownExtraField
  skip 24

/-- Reads a field with those times in seconds that its flags announce. A field with one time may
announce more. -/
def secondTimes (length : Nat) : FieldReader Unit := do
  if length == 0 then throw .badExtraField
  let flags ← number 1
  let announced := ((List.range 8).filter flags.testBit).length
  if length != 5 && length != 1 + 4 * announced then throw .unknownExtraField
  let known := ((List.range 3).filter flags.testBit).length
  skip (if length == 5 then 4 else 4 * known)

/-! ## Locks -/

/-- Reads a field that tells how data is locked, and by which method it is kept below the lock. -/
def lock (listing : Listing) (length : Nat) : FieldReader Listing := do
  if length != 7 then throw .unknownExtraField
  let version ← number 2
  let vendor ← number 2
  let strength ← number 1
  let method ← number 2
  if vendor != 0x4541 then throw .badExtraField
  if version != 1 && version != 2 then throw .badExtraField
  if strength == 0 || 3 < strength then throw .badExtraField
  return { listing with locked := true, method }

/-! ## Texts -/

/-- Reads a text in UTF-8 that stands for some bytes, which its checksum names. -/
def textFor (bytes : List UInt8) (length : Nat) : FieldReader (List UInt8 × String) := do
  skip 1
  let sum ← number 4
  if length < 5 then throw .badExtraField
  let content ← take (length - 5)
  if sum != (checksum bytes).toNat then throw .badExtraField
  match Utf8.text? content with
  | some text => return (content, text)
  | none => throw .badExtraField

def name (listing : Listing) (length : Nat) : FieldReader Listing := do
  let (rawName, name) ← textFor listing.rawName length
  return { listing with rawName, name }

def comment (listing : Listing) (length : Nat) : FieldReader Listing := do
  let (_, comment) ← textFor (Utf8.bytes listing.comment) length
  return { listing with comment }

/-! ## All fields -/

def ofKind (listing : Listing) (kind length : Nat) : FieldReader Listing := do
  match kind with
  | 0x0001 => sizes listing length
  | 0x000A => do
      tickTimes length
      return listing
  | 0x5455 => do
      secondTimes length
      return listing
  | 0x6375 => comment listing length
  | 0x7075 => name listing length
  | 0x9901 => lock listing length
  | _ => do
      skip length
      return listing

/-- Reads one field. A single byte that is left over is no field. -/
def one (listing : Listing) : FieldReader Listing := do
  if (← get).length < 2 then
    set ([] : List UInt8)
    return listing
  let kind ← number 2
  let length ← number 2
  ofKind listing kind length

/-- Reads fields up to the end. Every field takes a byte at least, so `fuel` that counts the bytes
suffices. -/
def fields : (fuel : Nat) → Listing → FieldReader Listing
  | 0, listing => return listing
  | fuel + 1, listing => do
      if (← get).isEmpty then return listing
      else fields fuel (← one listing)

def applyAll (listing : Listing) (bytes : List UInt8) : Except Fault Listing :=
  (fields bytes.length listing).run' bytes

end ExtraField

end GrantSurvey.Zip
