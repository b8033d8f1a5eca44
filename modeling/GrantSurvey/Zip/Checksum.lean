/-!
# Checksums

The cyclic redundancy check over 32 bits that archives keep for their members, with the reversed
polynomial and inverted at both ends.
-/

namespace GrantSurvey.Zip

/-- The generating polynomial, lowest power in the highest bit. -/
def polynomial : UInt32 := 0xEDB88320

def shiftOut (remainder : UInt32) : UInt32 :=
  if remainder &&& 1 == 1 then (remainder >>> 1) ^^^ polynomial else remainder >>> 1

def checksumStep (remainder : UInt32) (byte : UInt8) : UInt32 :=
  Nat.repeat shiftOut 8 (remainder ^^^ byte.toUInt32)

def checksum (bytes : List UInt8) : UInt32 :=
  bytes.foldl checksumStep 0xFFFFFFFF ^^^ 0xFFFFFFFF

end GrantSurvey.Zip
