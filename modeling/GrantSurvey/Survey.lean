import GrantSurvey.Archive
import GrantSurvey.ClassFile.Read
import GrantSurvey.Rulebook.Basic
import GrantSurvey.Tally

/-!
# Surveying classes and archives

The findings of a class are its calls that a rulebook demands permissions for. An archive is
surveyed entry by entry, in batches; an entry that fails becomes a diagnostic and leaves the other
entries alone.
-/

namespace GrantSurvey

/-- The finding for a call in a method of a class, if the call needs permissions. -/
def Finding.ofCall? (book : Rulebook) (className : String) (method : ClassFile.Method)
    (call : Call) : Option Finding :=
  let permissions := book.require call
  if permissions.isEmpty then none
  else
    some {
      className
      method := method.name
      descriptor := method.descriptor
      line := call.line
      permissions }

def Finding.ofMethod (book : Rulebook) (className : String) (method : ClassFile.Method) :
    List Finding :=
  method.calls.filterMap (Finding.ofCall? book className method)

def ClassFile.findings (book : Rulebook) (classFile : ClassFile) : List Finding :=
  Finding.orderByLine (classFile.methods.flatMap (Finding.ofMethod book classFile.name))

def examineClass (book : Rulebook) (module entry : String) (bytes : List UInt8) :
    Except Diagnostic (List Finding) :=
  match ClassFile.read bytes with
  | .ok classFile => .ok (classFile.findings book)
  | .error fault => .error (.malformedClass module entry fault.message)

structure ArchiveScan where
  findings : List Finding
  classCount : Nat
  diagnostics : List Diagnostic
  deriving DecidableEq, Repr

namespace ArchiveScan

def empty : ArchiveScan := ⟨[], 0, []⟩

def record (scan : ArchiveScan) : Except Diagnostic (List Finding) → ArchiveScan
  | .ok findings =>
      { scan with findings := scan.findings ++ findings, classCount := scan.classCount + 1 }
  | .error diagnostic => { scan with diagnostics := scan.diagnostics ++ [diagnostic] }

end ArchiveScan

def Archive.Entry.examine (book : Rulebook) (module : String) (entry : Archive.Entry) :
    Except Diagnostic (List Finding) :=
  match entry.bytes module with
  | .ok bytes => examineClass book module entry.name bytes
  | .error diagnostic => .error diagnostic

/-- Surveys entries, `size` at a time, on top of what has been surveyed. Batches of size zero hold
no entry. -/
def examineBatches (book : Rulebook) (module : String) (size : Nat) (scan : ArchiveScan)
    (entries : List Archive.Entry) : ArchiveScan :=
  if _ : size = 0 ∨ entries = [] then scan
  else
    let results := (entries.take size).map (Archive.Entry.examine book module)
    examineBatches book module size (results.foldl ArchiveScan.record scan) (entries.drop size)
  termination_by entries.length
  decreasing_by
    have going : ¬(size = 0 ∨ entries = []) := ‹_›
    have := mt List.length_eq_zero_iff.mp (fun none => going (.inr none))
    simp only [List.length_drop]
    omega

/-- How many entries are held in memory at a time. -/
def entryBatch : Nat := 64

/-- Surveys an archive. One that could not be opened has no entries and one diagnostic. -/
def examineArchive (book : Rulebook) : Except Diagnostic Archive → ArchiveScan
  | .ok archive =>
      examineBatches book archive.moduleName entryBatch .empty archive.entries
  | .error diagnostic => { ArchiveScan.empty with diagnostics := [diagnostic] }

end GrantSurvey
