import GrantSurvey.ClassFile.Skim
import GrantSurvey.ClassFile.Strict

/-!
# Reading class files

A class file is read strictly if it can be, and skimmed otherwise. The header is checked first, so
that bytes that are no class file at all are told apart.
-/

namespace GrantSurvey.ClassFile

def magicNumber : UInt32 := 0xCAFEBABE

def supportedVersions : UInt16 × UInt16 := (45, 69)

def header : Reader Unit := do
  let magic ← Reader.inPlace .header Reader.u4
  if magic != magicNumber then throw (.badMagic magic)
  let _minor ← Reader.inPlace .header Reader.u2
  let major ← Reader.inPlace .header Reader.u2
  if major < supportedVersions.1 || supportedVersions.2 < major then
    throw (.unsupportedVersion major)

def read (data : List UInt8) : Except Fault ClassFile := do
  Reader.readAll header data
  match Reader.readAll Strict.layout data with
  | .ok layout => layout.resolve
  | .error refusal => inPlace (.skimAfter refusal.message) (Skim.read data)

end GrantSurvey.ClassFile
