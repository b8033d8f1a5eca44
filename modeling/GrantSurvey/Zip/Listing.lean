import GrantSurvey.Text.Utf8
import GrantSurvey.Zip.CodePage
import GrantSurvey.Zip.EndRecord
import GrantSurvey.Zip.ExtraField

/-!
# The directory of an archive

The directory lists the members of an archive, one header for each, with a name, extra fields and a
comment behind it. An archive may hold several end records; the last one whose directory can be read
counts.
-/

namespace GrantSurvey.Zip

namespace Listing

/-- The text of bytes that are marked as UTF-8 or else are in the code page. -/
def text (marked : Bool) (bytes : List UInt8) : String :=
  if marked then Utf8.textLossy bytes else CodePage.text bytes

/-- A member that is kept under the number for locked data tells how to unlock it. -/
def checkLock (listing : Listing) : Except Fault Unit :=
  if listing.method == lockedMethod && !listing.locked then .error .unlockable else .ok ()

def move (moved : Nat) (listing : Listing) : Except Fault Listing :=
  if wideLimit < listing.header + moved then .error .distantMember
  else .ok { listing with header := listing.header + moved }

def ofPlace (archive : Array UInt8) (moved place : Nat) : Except Fault (Listing × Nat) := do
  if !hasRecord archive EndRecord.headerSignature EndRecord.headerSize place then
    throw .badDirectoryHeader
  let flags := short archive (place + 8)
  let nameSize := short archive (place + 28)
  let extraSize := short archive (place + 30)
  let commentSize := short archive (place + 32)
  let namePlace := place + EndRecord.headerSize
  let next := namePlace + nameSize + extraSize + commentSize
  if archive.size < next then throw .cutField
  let rawName := slice archive namePlace nameSize
  let rawComment := slice archive (namePlace + nameSize + extraSize) commentSize
  let stated : Listing := {
    rawName
    name := text (flags.testBit 11) rawName
    comment := text (flags.testBit 11) rawComment
    encrypted := flags.testBit 0
    locked := false
    method := short archive (place + 10)
    checksum := long archive (place + 16)
    size := long archive (place + 20)
    fullSize := long archive (place + 24)
    header := long archive (place + 42) }
  let listing ← ExtraField.applyAll stated (slice archive (namePlace + nameSize) extraSize)
  listing.checkLock
  return (← listing.move moved, next)

def following (archive : Array UInt8) (moved : Nat) :
    (count place : Nat) → Except Fault (List Listing)
  | 0, _ => .ok []
  | count + 1, place => do
      let (first, next) ← ofPlace archive moved place
      return first :: (← following archive moved count next)

def ofEndRecord (archive : Array UInt8) (record : EndRecord) : Except Fault (List Listing) := do
  if record.total < record.listed then throw .miscounted
  if record.disk != record.directoryDisk then throw .severalDisks
  following archive record.moved record.listed (record.moved + record.directory)

/-- Looks for a directory at the end records at some places. If none can be read, the fault of the
last directory counts that was found, or else the fault `missing`. -/
def search (archive : Array UInt8) (missing : Fault) (broken : Option Fault) :
    List Nat → Except Fault (List Listing)
  | [] => .error (broken.getD missing)
  | place :: places =>
      match EndRecord.ofPlace archive place with
      | .error fault => search archive fault broken places
      | .ok record =>
          match ofEndRecord archive record with
          | .ok listings => .ok listings
          | .error fault => search archive missing (some fault) places

/-- Puts a listing in the place of the one with its bytes as name, or at the end. -/
def insert (listing : Listing) : List Listing → List Listing
  | [] => [listing]
  | first :: others =>
      if first.rawName == listing.rawName then listing :: others
      else first :: insert listing others

/-- The listings of an archive. Of listings with one name the last counts. -/
def all (archive : Array UInt8) : Except Fault (List Listing) := do
  let ends := (placesOf archive EndRecord.signature 0 archive.size).reverse
  let listings ← search archive .noEnd none ends
  return listings.foldl (fun distinct listing => insert listing distinct) []

end Listing

end GrantSurvey.Zip
