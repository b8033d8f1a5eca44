/-!
# Opcodes

The first byte of an instruction. It tells the instruction's length or how the length is found, and
the class of instructions that matter for literals and for control flow.
-/

namespace GrantSurvey.ClassFile.Opcode

/-- How an opcode determines the length of its instruction. -/
inductive Shape where
  | fixed (length : Nat)
  | tableSwitch
  | lookupSwitch
  | wide
  | undefined
  deriving DecidableEq, Repr

def aconstNull : UInt8 := 0x01
def iconstM1 : UInt8 := 0x02
def iconst0 : UInt8 := 0x03
def iconst5 : UInt8 := 0x08
def lconst0 : UInt8 := 0x09
def dconst1 : UInt8 := 0x0f
def bipush : UInt8 := 0x10
def sipush : UInt8 := 0x11
def ldc : UInt8 := 0x12
def ldcW : UInt8 := 0x13
def ldc2W : UInt8 := 0x14
def iload : UInt8 := 0x15
def aload : UInt8 := 0x19
def iload0 : UInt8 := 0x1a
def aload3 : UInt8 := 0x2d
def iinc : UInt8 := 0x84
def ifeq : UInt8 := 0x99
def jsr : UInt8 := 0xa8
def tableswitch : UInt8 := 0xaa
def lookupswitch : UInt8 := 0xab
def getstatic : UInt8 := 0xb2
def invokevirtual : UInt8 := 0xb6
def invokespecial : UInt8 := 0xb7
def invokestatic : UInt8 := 0xb8
def invokeinterface : UInt8 := 0xb9
def wide : UInt8 := 0xc4
def ifnull : UInt8 := 0xc6
def ifnonnull : UInt8 := 0xc7
def gotoW : UInt8 := 0xc8
def jsrW : UInt8 := 0xc9

def between (low high opcode : UInt8) : Bool :=
  low ≤ opcode && opcode ≤ high

def shape (opcode : UInt8) : Shape :=
  if between 0x00 0x0f opcode then .fixed 1
  else if opcode == bipush then .fixed 2
  else if opcode == sipush then .fixed 3
  else if opcode == ldc then .fixed 2
  else if between ldcW ldc2W opcode then .fixed 3
  else if between iload aload opcode then .fixed 2
  else if between 0x1a 0x35 opcode then .fixed 1
  else if between 0x36 0x3a opcode then .fixed 2
  else if between 0x3b 0x83 opcode then .fixed 1
  else if opcode == iinc then .fixed 3
  else if between 0x85 0x98 opcode then .fixed 1
  else if between ifeq jsr opcode then .fixed 3
  else if opcode == 0xa9 then .fixed 2
  else if opcode == tableswitch then .tableSwitch
  else if opcode == lookupswitch then .lookupSwitch
  else if between 0xac 0xb1 opcode then .fixed 1
  else if between 0xb2 0xb8 opcode then .fixed 3
  else if between 0xb9 0xba opcode then .fixed 5
  else if opcode == 0xbb then .fixed 3
  else if opcode == 0xbc then .fixed 2
  else if opcode == 0xbd then .fixed 3
  else if between 0xbe 0xbf opcode then .fixed 1
  else if between 0xc0 0xc1 opcode then .fixed 3
  else if between 0xc2 0xc3 opcode then .fixed 1
  else if opcode == wide then .wide
  else if opcode == 0xc5 then .fixed 4
  else if between ifnull ifnonnull opcode then .fixed 3
  else if between gotoW jsrW opcode then .fixed 5
  else if opcode == 0xca then .fixed 1
  else if between 0xfe 0xff opcode then .fixed 1
  else .undefined

/-- Does the instruction leave exactly one value more on the stack, without looking at it? -/
def pushesOne (opcode : UInt8) : Bool :=
  opcode == aconstNull || between lconst0 dconst1 opcode || between iload aload opcode
    || between iload0 aload3 opcode || opcode == getstatic

def jumpsNear (opcode : UInt8) : Bool :=
  between ifeq jsr opcode || between ifnull ifnonnull opcode

def jumpsFar (opcode : UInt8) : Bool :=
  between gotoW jsrW opcode

/-- Does control come back to the instruction after this one when a subroutine ends? -/
def callsSubroutine (opcode : UInt8) : Bool :=
  opcode == jsr || opcode == jsrW

end GrantSurvey.ClassFile.Opcode
