/-!
# Fields of bytes

Archives keep numbers with their lowest byte first, at places that are counted from the start of the
file. Past the end there are no bytes.
-/

namespace GrantSurvey.Zip

def littleEndian (bytes : List UInt8) : Nat :=
  bytes.foldr (fun byte value => byte.toNat + 256 * value) 0

/-- The `count` bytes at a place, or fewer at the end. -/
def slice (archive : Array UInt8) (place count : Nat) : List UInt8 :=
  (archive.extract place (place + count)).toList

def short (archive : Array UInt8) (place : Nat) : Nat :=
  littleEndian (slice archive place 2)

def long (archive : Array UInt8) (place : Nat) : Nat :=
  littleEndian (slice archive place 4)

def wide (archive : Array UInt8) (place : Nat) : Nat :=
  littleEndian (slice archive place 8)

/-- Does a record of `size` bytes with a signature stand at a place? -/
def hasRecord (archive : Array UInt8) (signature size place : Nat) : Bool :=
  place + size ≤ archive.size && long archive place == signature

/-- The places from `low` on and before `high` at which a signature stands. -/
def placesOf (archive : Array UInt8) (signature low high : Nat) : List Nat :=
  ((List.range (min high archive.size - low)).map (low + ·)).filter fun place =>
    long archive place == signature

def shortLimit : Nat := 0xFFFF

def longLimit : Nat := 0xFFFFFFFF

end GrantSurvey.Zip
