/-!
# Faults of archives

Why an archive as a whole cannot be opened. The directory of an archive may be broken in many ways;
an archive may also ask for what is not supported, or be locked.
-/

namespace GrantSurvey.Zip

inductive Fault where
  | noEnd
  | cutEnd
  | noDirectory
  | misplacedDirectory
  | noWideEnd
  | badLocator
  | badWideEnd
  | miscounted
  | badDirectoryHeader
  | cutField
  | badExtraField
  | unlockable
  | distantMember
  | badMemberHeader
  | severalDisks
  | unknownExtraField
  | encrypted
  | locked
  | unknownMethod (number : Nat)
  | exhausted
  | unreachable
  deriving DecidableEq, Repr

namespace Fault

def invalid (reason : String) : String :=
  s!"invalid Zip archive: {reason}"

def unsupported (reason : String) : String :=
  s!"unsupported Zip archive: {reason}"

def message : Fault → String
  | noEnd => invalid "Could not find EOCD"
  | cutEnd => invalid "EOCD comment exceeds file boundary"
  | noDirectory => invalid "No CDFH found"
  | misplacedDirectory => invalid "Invalid CDFH offset in EOCD"
  | noWideEnd => invalid "Could not find EOCD64"
  | badLocator => invalid "Invalid EOCD64 Locator CD offset"
  | badWideEnd => invalid "Invalid EOCD64: inconsistent length"
  | miscounted => invalid "Invalid EOCD64: inconsistent number of files"
  | badDirectoryHeader => invalid "Invalid Central Directory header"
  | cutField => invalid "Variable-length field extends beyond file boundary"
  | badExtraField => invalid "Invalid extra field"
  | unlockable => invalid "AES encryption without AES extra data field"
  | distantMember => invalid "Archive header is too large"
  | badMemberHeader => invalid "Invalid local file header"
  | severalDisks => unsupported "Support for multi-disk files is not implemented"
  | unknownExtraField => unsupported "Extra field of an unsupported form"
  | encrypted => unsupported "Password required to decrypt file"
  | locked => "provided password is incorrect"
  | unknownMethod number => s!"compression method not supported: {number}"
  | exhausted => "i/o error: failed to fill whole buffer"
  | unreachable => "i/o error: Invalid argument (os error 22)"

end Fault

end GrantSurvey.Zip
