import GrantSurvey.ClassFile.ConstantPool
import GrantSurvey.ClassFile.Cursor

/-!
# Reading the constant pool

The pool is written as a count and one constant after another. Numbering starts at one, and a
constant of eight bytes takes two numbers, the second of which stays unused. How the bytes of a
text are decoded is left to the caller.
-/

namespace GrantSurvey.ClassFile

def Entry.isWide : Entry → Bool
  | .long _ => true
  | .other tag => tag == 6
  | _ => false

namespace PoolReader

open Reader

def passedSize? (tag : UInt8) : Option Nat :=
  if tag == 4 || tag == 9 || tag == 17 || tag == 18 then some 4
  else if tag == 15 then some 3
  else if tag == 16 || tag == 19 || tag == 20 then some 2
  else none

def constant (text : List UInt8 → String) : Reader Entry := do
  let tag ← u1
  if tag == 1 then
    let length ← u2
    return .utf8 (text (← take length.toNat))
  else if tag == 3 then
    return .integer (← u4).toInt32
  else if tag == 5 then
    return .long (← u8).toInt64
  else if tag == 6 then
    let _ ← u8
    return .other tag
  else if tag == 7 then
    return .classRef (← u2)
  else if tag == 8 then
    return .string (← u2)
  else if tag == 10 || tag == 11 then
    let owner ← u2
    return .methodRef owner (← u2)
  else if tag == 12 then
    let name ← u2
    return .nameAndType name (← u2)
  else
    match passedSize? tag with
    | some size => do
        skip size
        return .other tag
    | none => throw (.unknownConstantTag tag)

/-- The constants for the numbers that are left. A wide constant fills two of them, also when only
one is left. -/
def constants (text : List UInt8 → String) : Nat → Reader (List Entry)
  | 0 => pure []
  | 1 => do
      let entry ← constant text
      return if entry.isWide then [entry, .unused] else [entry]
  | room + 2 => do
      let entry ← constant text
      if entry.isWide then
        return entry :: .unused :: (← constants text room)
      else
        return entry :: (← constants text (room + 1))

end PoolReader

end GrantSurvey.ClassFile
