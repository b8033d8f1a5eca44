import GrantSurvey.Zip.Listing
import GrantSurvey.Zip.Method

/-!
# Members of archives

Every member that the directory of an archive lists has a header of its own before its data. The
members are told apart by the bytes of their names; a name as text may stand for several of them or,
if its bytes are no UTF-8, for none.
-/

namespace GrantSurvey.Zip

structure Member where
  rawName : List UInt8
  name : String
  method : Method
  checksum : Nat
  size : Nat
  data : List UInt8
  deriving DecidableEq, Repr

namespace Member

def signature : Nat := 0x04034B50

/-- The size of the header of a member without its fields of variable size. -/
def headerSize : Nat := 30

/-- Places from this one on cannot be reached in any file. -/
def placeLimit : Nat := 0x8000000000000000

/-- The method of a listing, unless it is unknown or locked. -/
def methodOf (listing : Listing) : Except Fault Method :=
  match Method.ofNumber? listing.method with
  | none =>
      .error (if listing.method == lockedMethod then .locked else .unknownMethod listing.method)
  | some method => if listing.locked then .error .locked else .ok method

def ofListing (archive : Array UInt8) (listing : Listing) : Except Fault Member := do
  let place := listing.header
  if listing.encrypted then throw .encrypted
  if placeLimit ≤ place then throw .unreachable
  if !hasRecord archive signature headerSize place then throw .badMemberHeader
  let method ← methodOf listing
  let start := place + headerSize + short archive (place + 26) + short archive (place + 28)
  return {
    rawName := listing.rawName
    name := listing.name
    method
    checksum := listing.checksum
    size := listing.fullSize
    data := slice archive start listing.size }

def bytes (member : Member) : Except DataFault (List UInt8) := do
  let bytes ← member.method.expand member.size member.data
  if (Zip.checksum bytes).toNat == member.checksum then .ok bytes else .error .badChecksum

end Member

def members (bytes : List UInt8) : Except Fault (List Member) := do
  let archive := bytes.toArray
  (← Listing.all archive).mapM (Member.ofListing archive)

/-- The bytes of the member whose name has the bytes of a text. -/
def read (members : List Member) (name : String) : Except DataFault (List UInt8) :=
  match members.find? (·.rawName == Utf8.bytes name) with
  | some member => member.bytes
  | none => .error .absent

end GrantSurvey.Zip
