import GrantSurvey.Zip.Bytes
import GrantSurvey.Zip.Fault

/-!
# The end of an archive

An archive ends with a record that tells where its directory is. Anything may stand before the
archive and after its end record, so the stated places are moved to where the directory really is.
A directory that is too large for that record has a wide one before it, which a locator finds.
-/

namespace GrantSurvey.Zip

/-- What the end of an archive says about its directory. Every stated place is moved by `moved`. -/
structure EndRecord where
  disk : Nat
  directoryDisk : Nat
  listed : Nat
  total : Nat
  directory : Nat
  moved : Nat
  deriving DecidableEq, Repr

namespace EndRecord

def signature : Nat := 0x06054B50

def wideSignature : Nat := 0x06064B50

def locatorSignature : Nat := 0x07064B50

def headerSignature : Nat := 0x02014B50

def headerSize : Nat := 46

/-- The record at a place, when its narrow fields say all. The first directory header at the stated
place or after it tells how far the archive is moved. -/
def narrow (archive : Array UInt8) (place : Nat) : Except Fault EndRecord :=
  let directory := long archive (place + 16)
  let record (moved : Nat) : EndRecord := {
    disk := short archive (place + 4)
    directoryDisk := short archive (place + 6)
    listed := short archive (place + 8)
    total := short archive (place + 8)
    directory
    moved }
  if short archive (place + 10) == 0 then .ok (record (place - directory))
  else if place ≤ directory then .error .misplacedDirectory
  else
    match (placesOf archive headerSignature directory place).head? with
    | some header => .ok (record (header - directory))
    | none => .error .noDirectory

/-- The wide record at a place, which ends where its locator stands and agrees with it. The locator
takes the record to be at the place `stated`. -/
def wideAt (archive : Array UInt8) (locator stated place : Nat) : Except Fault EndRecord :=
  let total := wide archive (place + 32)
  let directory := wide archive (place + 48)
  if locator < place + 56 || place + 12 + wide archive (place + 4) != locator
      || long archive (place + 20) != long archive (locator + 4) then .error .badWideEnd
  else if place < total * headerSize + directory then .error .miscounted
  else .ok {
    disk := long archive (place + 16)
    directoryDisk := long archive (place + 20)
    listed := wide archive (place + 24)
    total
    directory
    moved := place - stated }

/-- The first wide record at some places. If there is none, the last fault counts. -/
def firstWide (archive : Array UInt8) (locator stated : Nat) (fault : Fault) :
    List Nat → Except Fault EndRecord
  | [] => .error fault
  | place :: places =>
      match wideAt archive locator stated place with
      | .ok record => .ok record
      | .error fault => firstWide archive locator stated fault places

def located (archive : Array UInt8) (locator : Nat) : Except Fault EndRecord :=
  let stated := wide archive (locator + 8)
  if locator ≤ stated || 1 < long archive (locator + 16) then .error .badLocator
  else firstWide archive locator stated .noWideEnd (placesOf archive wideSignature stated locator)

/-- Could the record at a place be too narrow for its archive? -/
def isFull (archive : Array UInt8) (place : Nat) : Bool :=
  short archive (place + 10) == shortLimit || long archive (place + 16) == longLimit

def hasLocator (archive : Array UInt8) (place : Nat) : Bool :=
  20 ≤ place && hasRecord archive locatorSignature 20 (place - 20)

def ofPlace (archive : Array UInt8) (place : Nat) : Except Fault EndRecord :=
  if archive.size < place + 22 + short archive (place + 20) then .error .cutEnd
  else if isFull archive place && hasLocator archive place then located archive (place - 20)
  else narrow archive place

end EndRecord

end GrantSurvey.Zip
