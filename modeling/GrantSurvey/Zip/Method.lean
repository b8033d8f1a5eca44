import GrantSurvey.Zip.Bzip2
import GrantSurvey.Zip.Inflate
import GrantSurvey.Zip.Xz
import GrantSurvey.Zip.Zstandard.Frame

/-!
# How data is kept

A member is stored as it is or compressed by one of several methods, each of which has a number.
-/

namespace GrantSurvey.Zip

inductive Method where
  | stored
  | deflated
  | deflatedWide
  | bzip2
  | lzma
  | zstandard
  | xz
  | ppmd
  deriving DecidableEq, Repr

inductive DataFault where
  | absent
  | incomplete
  | corrupt
  | corruptWide
  | bzip2 (fault : Bzip2.Fault)
  | lzma (fault : Lzma.Fault)
  | zstandard (fault : Zstandard.Fault)
  | xz (fault : Xz.Fault)
  | ppmdHeader
  | ppmdParameter
  | badChecksum
  deriving DecidableEq, Repr

def DataFault.message : DataFault → String
  | absent => "specified file not found in archive"
  | incomplete => "incomplete deflate stream"
  | corrupt => "corrupt deflate stream"
  | corruptWide => "invalid deflate64"
  | bzip2 fault => fault.message
  | lzma fault => fault.message
  | zstandard fault => fault.message
  | xz fault => fault.message
  | ppmdHeader => "failed to fill whole buffer"
  | ppmdParameter => "Invalid PPMd parameter"
  | badChecksum => "Invalid checksum"

namespace Method

def ofNumber? : Nat → Option Method
  | 0 => some .stored
  | 8 => some .deflated
  | 9 => some .deflatedWide
  | 12 => some .bzip2
  | 14 => some .lzma
  | 93 => some .zstandard
  | 95 => some .xz
  | 98 => some .ppmd
  | _ => none

/-- The bytes that data of a method stands for. Some methods have to be told how many there are. Of
the method that predicts bytes from those before them only the two bytes of parameters are read, and
none are accepted. -/
def expand (size : Nat) (data : List UInt8) : Method → Except DataFault (List UInt8)
  | .stored => .ok data
  | .deflated =>
      match inflate data with
      | .ok bytes => .ok bytes
      | .error .exhausted => .error .incomplete
      | .error .corrupt => .error .corrupt
  | .deflatedWide =>
      match inflateWide data with
      | some bytes => .ok bytes
      | none => .error .corruptWide
  | .bzip2 => (Bzip2.decode data).mapError .bzip2
  | .lzma => (Lzma.decode size data).mapError .lzma
  | .zstandard => (Zstandard.decode data).mapError .zstandard
  | .xz => (Xz.decode data).mapError .xz
  | .ppmd => .error (if data.length < 2 then .ppmdHeader else .ppmdParameter)

end Method

end GrantSurvey.Zip
