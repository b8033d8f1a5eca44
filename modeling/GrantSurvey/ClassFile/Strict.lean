import GrantSurvey.ClassFile.BodyTables
import GrantSurvey.ClassFile.Bytecode
import GrantSurvey.ClassFile.PoolReader
import GrantSurvey.Text.ModifiedUtf8

/-!
# The strict reading

Reads the whole class file by the grammar of every known attribute and accepts nothing else: an
unknown attribute, a malformed one, or bytes after the last attribute are refused. Attribute
lengths are not relied on. References between constants are followed afterwards, when the accepted
layout is turned into a class.
-/

namespace GrantSurvey.ClassFile.Strict

open Reader

/-- The content of a code attribute, with the line tables among its own attributes. -/
structure CodeBody where
  code : List UInt8
  handlers : List Nat
  lines : List LineNumber
  deriving DecidableEq, Repr

inductive Attribute where
  | code (body : CodeBody)
  | lineNumbers (entries : List LineNumber)
  | plain
  deriving DecidableEq, Repr

def Attribute.body? : Attribute → Option CodeBody
  | code body => some body
  | _ => none

def Attribute.lineEntries : Attribute → List LineNumber
  | lineNumbers entries => entries
  | _ => []

def passed {α : Type} (reader : Reader α) : Reader Unit := do
  let _ ← reader

/-- Reads a one-byte count and then as many values, of which nothing is kept. -/
def shortCounted (reader : Reader Unit) : Reader Unit := do
  let count ← u1
  passed (repeated reader count.toNat)

/-- Insists that `count` bytes follow, without reading them. -/
def present (count : Nat) : Reader Unit := fun cursor =>
  if (cursor.rest.take count).length = count then .ok () cursor
  else .error (.outOfBounds cursor.position) cursor

/-- How many bytes follow. Nothing nests deeper than that. -/
def bytesLeft : Reader Nat := fun cursor =>
  .ok cursor.rest.length cursor

/-! ## Annotations -/

def annotationOf (value : Reader Unit) : Reader Unit := do
  skip 2
  passed (counted (do skip 2; value))

/-- A value in an annotation, nested at most `depth` deep. -/
def elementValue : Nat → Reader Unit
  | 0 => throw .nestedTooDeep
  | depth + 1 => do
      let tag ← u1
      if "BCDFIJSZsc".toList.any (fun simple => simple.toNat == tag.toNat) then skip 2
      else if tag.toNat == 'e'.toNat then skip 4
      else if tag.toNat == '@'.toNat then annotationOf (elementValue depth)
      else if tag.toNat == '['.toNat then passed (counted (elementValue depth))
      else throw (.unknownElementTag tag)

def annotation : Reader Unit := do
  let depth ← bytesLeft
  annotationOf (elementValue (depth + 1))

def annotationTarget : Reader Unit := do
  let target ← u1
  if target ≤ 0x01 then skip 1
  else if target == 0x10 then skip 2
  else if target == 0x11 || target == 0x12 then skip 2
  else if 0x13 ≤ target && target ≤ 0x15 then pure ()
  else if target == 0x16 then skip 1
  else if target == 0x17 then skip 2
  else if target == 0x40 || target == 0x41 then passed (counted (skip 6))
  else if 0x42 ≤ target && target ≤ 0x46 then skip 2
  else if 0x47 ≤ target && target ≤ 0x4B then skip 3
  else throw (.unknownAnnotationTarget target)

def typeAnnotation : Reader Unit := do
  annotationTarget
  shortCounted (skip 2)
  annotation

/-! ## Stack maps -/

def verificationType : Reader Unit := do
  let tag ← u1
  if tag ≤ 6 then pure ()
  else if tag ≤ 8 then skip 2
  else throw (.unknownVerificationTag tag)

def frame : Reader Unit := do
  let type ← u1
  if type ≤ 63 then pure ()
  else if type ≤ 127 then verificationType
  else if type == 247 then do
    skip 2
    verificationType
  else if 248 ≤ type && type ≤ 251 then skip 2
  else if 252 ≤ type && type ≤ 254 then do
    skip 2
    passed (repeated verificationType (type.toNat - 251))
  else if type == 255 then do
    skip 2
    passed (counted verificationType)
    passed (counted verificationType)
  else throw (.unknownFrameType type)

/-! ## Attributes -/

def codeBody (nested : Reader Attribute) : Reader CodeBody := do
  skip 4
  let length ← u4
  let code ← take length.toNat
  let handlers ← counted handler
  let attributes ← counted nested
  return { code, handlers, lines := attributes.flatMap (·.lineEntries) }

def plain {α : Type} (reader : Reader α) : Reader Attribute := do
  let _ ← reader
  return .plain

/-- The content of an attribute by its name. Attributes inside it are read by `nested`. -/
def content (nested : Reader Attribute) (name : String) (length : Nat) : Reader Attribute :=
  match name with
  | "Code" => .code <$> codeBody nested
  | "LineNumberTable" => .lineNumbers <$> counted lineNumber
  | "ConstantValue" | "SourceFile" | "Signature" | "NestHost" => plain (skip 2)
  | "Exceptions" | "NestMembers" | "PermittedSubclasses" => plain (counted (skip 2))
  | "Synthetic" | "Deprecated" => plain (pure ())
  | "LocalVariableTable" | "LocalVariableTypeTable" => plain (counted (skip 10))
  | "InnerClasses" => plain (counted (skip 8))
  | "EnclosingMethod" => plain (skip 4)
  | "SourceDebugExtension" => plain (skip length)
  -- This one and a default value need all their declared bytes before anything is read.
  | "RuntimeVisibleAnnotations" => plain (do present length; passed (counted annotation))
  | "RuntimeInvisibleAnnotations" => plain (counted annotation)
  | "RuntimeVisibleParameterAnnotations" | "RuntimeInvisibleParameterAnnotations" =>
      plain (shortCounted (passed (counted annotation)))
  | "RuntimeVisibleTypeAnnotations" | "RuntimeInvisibleTypeAnnotations" =>
      plain (counted typeAnnotation)
  | "AnnotationDefault" =>
      plain (do
        present length
        let depth ← bytesLeft
        elementValue (depth + 1))
  | "StackMapTable" => plain (counted frame)
  | "BootstrapMethods" => plain (counted (do skip 2; passed (counted (skip 2))))
  | "MethodParameters" => plain (shortCounted (skip 4))
  | "Record" => plain (counted (do skip 4; passed (counted nested)))
  | _ => throw (.unknownAttribute name)

/-- An attribute whose name is in the pool. Its content is read by its name and declared length. -/
def named (pool : ConstantPool) (content : String → Nat → Reader Attribute) :
    Reader Attribute := do
  let index ← u2
  let length ← u4
  match pool.entry? index with
  | some (.utf8 name) => content name length.toNat
  | _ => throw (.unnamedAttribute index)

/-- An attribute, with others nested in it at most `depth` deep. -/
def attributeInfo (pool : ConstantPool) : Nat → Reader Attribute
  | 0 => throw .nestedTooDeep
  | depth + 1 => named pool (content (attributeInfo pool depth))

/-- A counted list of attributes, read by `each` for a depth of nesting. -/
def attributes (each : Nat → Reader Attribute) : Reader (List Attribute) := do
  let depth ← bytesLeft
  counted (each (depth + 1))

/-! ## The class -/

/-- A method as it is written, with its name and descriptor still as numbers. -/
structure MethodInfo where
  name : UInt16
  descriptor : UInt16
  attributes : List Attribute
  deriving DecidableEq, Repr

/-- The parts of an accepted class file that are kept. -/
structure Layout where
  pool : ConstantPool
  this : UInt16
  methods : List MethodInfo
  deriving DecidableEq, Repr

def pool : Reader ConstantPool := do
  let count ← u2
  let constants ← PoolReader.constants ModifiedUtf8.classText (count.toNat - 1)
  return ⟨((Entry.unused :: constants).take count.toNat).toArray⟩

def methodInfo (each : Nat → Reader Attribute) : Reader MethodInfo := do
  skip 2
  let name ← u2
  let descriptor ← u2
  let attributes ← attributes each
  return { name, descriptor, attributes }

def field (each : Nat → Reader Attribute) : Reader Unit := do
  skip 6
  passed (attributes each)

def finish : Reader Unit := fun cursor =>
  if cursor.rest.isEmpty then .ok () cursor
  else .error (.trailingBytes cursor.position) cursor

/-- The whole class file, with its attributes read by `each` for a pool. -/
def layoutBy (each : ConstantPool → Nat → Reader Attribute) : Reader Layout := do
  skip 8
  let pool ← pool
  skip 2
  let this ← u2
  skip 2
  passed (counted (skip 2))
  passed (counted (field (each pool)))
  let methods ← counted (methodInfo (each pool))
  passed (attributes (each pool))
  finish
  return { pool, this, methods }

def layout : Reader Layout :=
  layoutBy attributeInfo

open ConstantPool.Strict (utf8 className)

/-- A method, if it has a body. Of several bodies the first one counts, and a method without one is
passed over before its name is looked up. -/
def MethodInfo.resolve (pool : ConstantPool) (info : MethodInfo) :
    Except Fault (Option Method) :=
  match info.attributes.findSome? Attribute.body? with
  | none => .ok none
  | some body => do
      let name ← ClassFile.inPlace .methodName (utf8 pool info.name)
      let descriptor ← ClassFile.inPlace .methodDescriptor (utf8 pool info.descriptor)
      let instructions ← ClassFile.inPlace (.bytecodeOf name descriptor)
        (Bytecode.decode pool.strictSymbols body.handlers body.code)
      return some { name, descriptor, instructions, lines := sortLines body.lines }

def Layout.resolve (layout : Layout) : Except Fault ClassFile := do
  let name ← ClassFile.inPlace .className (className layout.pool layout.this)
  let methods ← ClassFile.inPlace .methods (layout.methods.mapM (·.resolve layout.pool))
  return { name, methods := methods.filterMap id }

end GrantSurvey.ClassFile.Strict
