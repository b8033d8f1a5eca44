import GrantSurvey.ClassFile.Cursor
import GrantSurvey.ClassFile.Instruction

/-!
# Tables of a method body

The rows of the two tables that accompany the code of a method: its exception handlers, of which
only the entry point is kept, and its line numbers.
-/

namespace GrantSurvey.ClassFile.Reader

def lineNumber : Reader LineNumber := do
  let start ← u2
  let line ← u2
  return ⟨start.toNat, line.toNat⟩

def handler : Reader Nat := do
  skip 4
  let entry ← u2
  skip 2
  return entry.toNat

end GrantSurvey.ClassFile.Reader
