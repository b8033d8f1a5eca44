import GrantSurvey.Account

/-!
# Faults of class files

Why a class file cannot be read: the causes, the places in which they arise, and their wording.
A cause is wrapped in the places from the inside out, so a fault determines one account.
-/

namespace GrantSurvey.ClassFile

inductive Place where
  | header
  | constantPool
  | className
  | methods
  | fieldAttributes
  | methodName
  | methodDescriptor
  | owner
  | bytecodeOf (name descriptor : String)
  | codeOf (name descriptor : String)
  | callAt (offset : Nat)
  | skimAfter (refusal : String)
  deriving DecidableEq, Repr

inductive Fault where
  | outOfBounds (position : Nat)
  | badMagic (magic : UInt32)
  | unsupportedVersion (major : UInt16)
  | constantOutOfRange (index : UInt16)
  | notMethodReference (index : UInt16)
  | notNameAndType (index : UInt16)
  | notClass (index : UInt16)
  | notUtf8 (index : UInt16)
  | missingUtf8 (index : UInt16)
  | missingClass (index : UInt16)
  | missingMethodReference (index : UInt16)
  | missingNameAndType (index : UInt16)
  | missingConstant (index : UInt16)
  | unknownConstantTag (tag : UInt8)
  | unsupportedOpcode (opcode : UInt8)
  | badInstructionLength (offset : Nat)
  | truncatedWide (offset : Nat)
  | shortOperand (bits : Nat)
  | negativeSwitch (offset : Nat)
  | jumpBeforeStart (offset : Nat)
  | jumpTooFar (offset : Nat)
  | unnamedAttribute (index : UInt16)
  | unknownAttribute (name : String)
  | unknownElementTag (tag : UInt8)
  | unknownFrameType (type : UInt8)
  | unknownVerificationTag (tag : UInt8)
  | unknownAnnotationTarget (target : UInt8)
  | nestedTooDeep
  | trailingBytes (position : Nat)
  | within (place : Place) (cause : Fault)
  deriving DecidableEq, Repr

/-- The lower-case hexadecimal digits of a number, filled up with zeros to a width. -/
def hexDigits (width value : Nat) : String :=
  let digits := Nat.toDigits 16 value
  String.ofList (List.replicate (width - digits.length) '0' ++ digits)

def Place.text : Place → String
  | header => "read class header"
  | constantPool => "parse constant pool"
  | className => "resolve class name"
  | methods => "parse methods"
  | fieldAttributes => "skip field attributes"
  | methodName => "resolve method name"
  | methodDescriptor => "resolve method descriptor"
  | owner => "resolve owner"
  | bytecodeOf name descriptor => s!"decode bytecode of {name}{descriptor}"
  | codeOf name descriptor => s!"parse code of {name}{descriptor}"
  | callAt offset => s!"resolve method ref at offset {offset}"
  | skimAfter refusal => s!"failed to parse class file bytes ({refusal})"

/-- A number below zero where a size or a position is needed. -/
def tooSmall : String := "number too small to fit in target type"

/-- A number of more than 32 bits where a position is needed. -/
def tooLarge : String := "number too large to fit in target type"

namespace Fault

/-- The account of a fault: its places, then the cause. -/
def account : Fault → Account
  | outOfBounds position => [s!"class file out of bounds at byte {position}"]
  | badMagic magic => ["invalid class file magic 0x" ++ hexDigits 8 magic.toNat]
  | unsupportedVersion major => [s!"unsupported class file version {major}"]
  | constantOutOfRange index => [s!"constant #{index} out of range"]
  | notMethodReference index => [s!"constant #{index} is not a method reference"]
  | notNameAndType index => [s!"constant #{index} is not a name and type"]
  | notClass index => [s!"constant #{index} is not a class"]
  | notUtf8 index => [s!"constant #{index} is not UTF-8"]
  | missingUtf8 index => [s!"missing utf8 entry {index}"]
  | missingClass index => [s!"missing class entry {index}"]
  | missingMethodReference index => [s!"missing method ref entry {index}"]
  | missingNameAndType index => [s!"missing name and type entry {index}"]
  | missingConstant index => [s!"missing constant pool entry {index}"]
  | unknownConstantTag tag => [s!"unknown constant pool tag {tag}"]
  | unsupportedOpcode opcode => ["unsupported opcode 0x" ++ hexDigits 2 opcode.toNat]
  | badInstructionLength offset => [s!"invalid bytecode length at offset {offset}"]
  | truncatedWide offset => [s!"truncated wide instruction at offset {offset}"]
  | shortOperand bits =>
      [(if bits = 32 then "bytecode i32" else s!"bytecode u{bits}") ++ " out of bounds"]
  | negativeSwitch offset => [s!"invalid switch table size at offset {offset}", tooSmall]
  | jumpBeforeStart offset =>
      [s!"branch at offset {offset} jumps before the method start", tooSmall]
  | jumpTooFar offset =>
      [s!"branch at offset {offset} jumps before the method start", tooLarge]
  | unnamedAttribute index => [s!"attribute name #{index} is not UTF-8"]
  | unknownAttribute name => [s!"unknown attribute {name}"]
  | unknownElementTag tag => [s!"unknown element value tag {tag}"]
  | unknownFrameType type => [s!"unknown stack map frame type {type}"]
  | unknownVerificationTag tag => [s!"unknown verification type tag {tag}"]
  | unknownAnnotationTarget target => [s!"unknown type annotation target {target}"]
  | nestedTooDeep => ["attributes nested too deeply"]
  | trailingBytes position => [s!"bytes left over at byte {position}"]
  | within place cause => place.text :: cause.account

def message (fault : Fault) : String :=
  fault.account.inline

end Fault

def inPlace {α : Type} (place : Place) : Except Fault α → Except Fault α
  | .ok value => .ok value
  | .error cause => .error (.within place cause)

end GrantSurvey.ClassFile
