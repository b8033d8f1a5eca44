import GrantSurvey.ClassFile.BodyTables
import GrantSurvey.ClassFile.Bytecode
import GrantSurvey.ClassFile.PoolReader
import GrantSurvey.Text.Utf8

/-!
# The skimming reading

Reads only what a survey needs: the constant pool, the class name, and the code and line tables of
the methods. Every other attribute is passed over by its declared length, so attributes that nobody
has heard of do no harm. What follows the methods is not looked at.
-/

namespace GrantSurvey.ClassFile.Skim

open Reader
open ConstantPool.Skim (utf8 className)

/-- An attribute: the number of its name, and its content as bytes. -/
def attributeInfo : Reader (UInt16 × List UInt8) := do
  let name ← u2
  let length ← u4
  let content ← take length.toNat
  return (name, content)

def pool : Reader ConstantPool := do
  let count ← u2
  let constants ← PoolReader.constants Utf8.textLossy (count.toNat - 1)
  return ⟨(Entry.unused :: constants).toArray⟩

/-- The line entries of an attribute of a body: none, unless it is a line table. -/
def bodyLines (pool : ConstantPool) : Reader (List LineNumber) := do
  let (name, content) ← attributeInfo
  if (← lift (utf8 pool name)) == "LineNumberTable" then
    lift (readAll (counted lineNumber) content)
  else return []

def body (pool : ConstantPool) : Reader (List Instruction × List LineNumber) := do
  skip 2
  skip 2
  let length ← u4
  let code ← take length.toNat
  let handlers ← counted handler
  let tables ← counted (bodyLines pool)
  let instructions ← lift (Bytecode.decode pool.skimSymbols handlers code)
  return (instructions, sortLines tables.flatten)

/-- The body that an attribute of a method holds: none, unless it is a code attribute. -/
def methodBody (pool : ConstantPool) (name descriptor : String) :
    Reader (Option (List Instruction × List LineNumber)) := do
  let (attributeName, content) ← attributeInfo
  if (← lift (utf8 pool attributeName)) == "Code" then
    some <$> lift (ClassFile.inPlace (.codeOf name descriptor) (readAll (body pool) content))
  else return none

/-- A method, if it has a body. Of several bodies the last one counts. -/
def method (pool : ConstantPool) : Reader (Option Method) := do
  skip 2
  let nameIndex ← u2
  let name ← lift (ClassFile.inPlace .methodName (utf8 pool nameIndex))
  let descriptorIndex ← u2
  let descriptor ← lift (ClassFile.inPlace .methodDescriptor (utf8 pool descriptorIndex))
  let bodies ← counted (methodBody pool name descriptor)
  return (bodies.filterMap id).getLast?.map fun (instructions, lines) =>
    { name, descriptor, instructions, lines }

def field : Reader Unit := do
  skip 6
  let _ ← Reader.inPlace .fieldAttributes (counted attributeInfo)

def classFile : Reader ClassFile := do
  skip 8
  let pool ← Reader.inPlace .constantPool pool
  skip 2
  let this ← u2
  let name ← lift (ClassFile.inPlace .className (className pool this))
  skip 2
  let interfaces ← u2
  skip (interfaces.toNat * 2)
  let _ ← counted field
  let methods ← counted (method pool)
  return { name, methods := methods.filterMap id }

def read (data : List UInt8) : Except Fault ClassFile :=
  readAll classFile data

end GrantSurvey.ClassFile.Skim
