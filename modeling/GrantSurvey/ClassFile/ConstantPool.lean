import GrantSurvey.ClassFile.Fault
import GrantSurvey.ClassFile.Instruction

/-!
# The constant pool

The numbered table of a class file in which instructions find their literals and callees. A look-up
follows references between entries; the two readings of a class file ask the same questions and
word their refusals differently, so there is one `Symbols` view for each.
-/

namespace GrantSurvey.ClassFile

/-- An entry of the pool. Entries that no look-up follows are kept only as `other`. -/
inductive Entry where
  | unused
  | utf8 (text : String)
  | integer (value : Int32)
  | long (value : Int64)
  | classRef (name : UInt16)
  | string (text : UInt16)
  | methodRef (owner nameAndType : UInt16)
  | nameAndType (name descriptor : UInt16)
  | other (tag : UInt8)
  deriving DecidableEq, Repr

structure ConstantPool where
  entries : Array Entry
  deriving DecidableEq, Repr

/-- The questions that a method body asks of the pool: which method a number names, and which
literal it stands for, if the entry can be loaded at all. -/
structure Symbols where
  method : UInt16 → Except Fault MethodSymbol
  literal : UInt16 → Except Fault (Option Literal)

namespace ConstantPool

def entry? (pool : ConstantPool) (index : UInt16) : Option Entry :=
  pool.entries[index.toNat]?

/-! ## Look-ups of the strict reading -/

namespace Strict

def entry (pool : ConstantPool) (index : UInt16) : Except Fault Entry :=
  match pool.entry? index with
  | some entry => .ok entry
  | none => .error (.constantOutOfRange index)

def utf8 (pool : ConstantPool) (index : UInt16) : Except Fault String := do
  match ← entry pool index with
  | .utf8 text => .ok text
  | _ => .error (.notUtf8 index)

def className (pool : ConstantPool) (index : UInt16) : Except Fault String := do
  match ← entry pool index with
  | .classRef name => utf8 pool name
  | _ => .error (.notClass index)

/-- The method of a number; its name and type are looked up before its owner. -/
def method (pool : ConstantPool) (index : UInt16) : Except Fault MethodSymbol := do
  match ← entry pool index with
  | .methodRef owner nameAndType =>
      match ← entry pool nameAndType with
      | .nameAndType name descriptor =>
          let owner ← inPlace .owner (className pool owner)
          let name ← inPlace .methodName (utf8 pool name)
          let descriptor ← inPlace .methodDescriptor (utf8 pool descriptor)
          return { owner, name, descriptor }
      | _ => .error (.notNameAndType nameAndType)
  | _ => .error (.notMethodReference index)

/-- The literal of a number, if it is a text or a whole number. -/
def literal (pool : ConstantPool) (index : UInt16) : Except Fault (Option Literal) := do
  match ← entry pool index with
  | .string text => return some (.text (← utf8 pool text))
  | .integer value => return some (.int value)
  | .long value => return some (.long value)
  | _ => return none

end Strict

def strictSymbols (pool : ConstantPool) : Symbols where
  method := Strict.method pool
  literal := Strict.literal pool

/-! ## Look-ups of the skimming reading -/

namespace Skim

def utf8 (pool : ConstantPool) (index : UInt16) : Except Fault String :=
  match pool.entry? index with
  | some (.utf8 text) => .ok text
  | _ => .error (.missingUtf8 index)

def className (pool : ConstantPool) (index : UInt16) : Except Fault String :=
  match pool.entry? index with
  | some (.classRef name) => utf8 pool name
  | _ => .error (.missingClass index)

/-- The method of a number; its owner is looked up before its name and type. -/
def method (pool : ConstantPool) (index : UInt16) : Except Fault MethodSymbol := do
  match pool.entry? index with
  | some (.methodRef owner nameAndType) =>
      let owner ← inPlace .owner (className pool owner)
      match pool.entry? nameAndType with
      | some (.nameAndType name descriptor) =>
          let name ← inPlace .methodName (utf8 pool name)
          let descriptor ← inPlace .methodDescriptor (utf8 pool descriptor)
          return { owner, name, descriptor }
      | _ => .error (.missingNameAndType nameAndType)
  | _ => .error (.missingMethodReference index)

/-- The literal of a number, if it is a text or a whole number. -/
def literal (pool : ConstantPool) (index : UInt16) : Except Fault (Option Literal) := do
  match pool.entry? index with
  | some (.string text) => return some (.text (← utf8 pool text))
  | some (.integer value) => return some (.int value)
  | some (.long value) => return some (.long value)
  | some _ => return none
  | none => .error (.missingConstant index)

end Skim

def skimSymbols (pool : ConstantPool) : Symbols where
  method := Skim.method pool
  literal := Skim.literal pool

end ConstantPool

end GrantSurvey.ClassFile
