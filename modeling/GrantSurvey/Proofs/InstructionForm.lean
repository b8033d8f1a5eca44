import GrantSurvey.ClassFile.Bytecode
import GrantSurvey.Proofs.BigEndian

/-!
# Written instructions

The instruction format of method bodies as a grammar of its own, apart from the decoder. A form is
one instruction as it is written: its bytes follow from it, and so do the distances of its jumps.
Whether a form is complete at an offset, which numbers it looks up in the constant pool, and which
effect it denotes is said on the form, without any reading of bytes.
-/

namespace GrantSurvey.ClassFile.Bytecode

/-- The lengths of the instructions by opcode, sixteen to a row. Zero stands for an opcode that is
not in use or whose instructions have different lengths. -/
def lengthChart : List Nat :=
  [1, 1, 1, 1, 1, 1, 1, 1, 1, 1, 1, 1, 1, 1, 1, 1,
   2, 3, 2, 3, 3, 2, 2, 2, 2, 2, 1, 1, 1, 1, 1, 1,
   1, 1, 1, 1, 1, 1, 1, 1, 1, 1, 1, 1, 1, 1, 1, 1,
   1, 1, 1, 1, 1, 1, 2, 2, 2, 2, 2, 1, 1, 1, 1, 1,
   1, 1, 1, 1, 1, 1, 1, 1, 1, 1, 1, 1, 1, 1, 1, 1,
   1, 1, 1, 1, 1, 1, 1, 1, 1, 1, 1, 1, 1, 1, 1, 1,
   1, 1, 1, 1, 1, 1, 1, 1, 1, 1, 1, 1, 1, 1, 1, 1,
   1, 1, 1, 1, 1, 1, 1, 1, 1, 1, 1, 1, 1, 1, 1, 1,
   1, 1, 1, 1, 3, 1, 1, 1, 1, 1, 1, 1, 1, 1, 1, 1,
   1, 1, 1, 1, 1, 1, 1, 1, 1, 3, 3, 3, 3, 3, 3, 3,
   3, 3, 3, 3, 3, 3, 3, 3, 3, 2, 0, 0, 1, 1, 1, 1,
   1, 1, 3, 3, 3, 3, 3, 3, 3, 5, 5, 3, 2, 3, 1, 1,
   3, 3, 1, 1, 0, 4, 3, 3, 5, 5, 1, 0, 0, 0, 0, 0,
   0, 0, 0, 0, 0, 0, 0, 0, 0, 0, 0, 0, 0, 0, 0, 0,
   0, 0, 0, 0, 0, 0, 0, 0, 0, 0, 0, 0, 0, 0, 0, 0,
   0, 0, 0, 0, 0, 0, 0, 0, 0, 0, 0, 0, 0, 0, 1, 1]

/-- An instruction as a method body writes it. The cases of a `lookupSwitch` are pairs of a value
and a distance. -/
inductive Form where
  | fixed (opcode : UInt8) (operands : List UInt8)
  | wide (opcode : UInt8) (operands : List UInt8)
  | tableSwitch (padding : List UInt8) (default low high : Int32) (cases : List Int32)
  | lookupSwitch (padding : List UInt8) (default count : Int32) (cases : List (Int32 × Int32))
  deriving DecidableEq, Repr

namespace Form

def wordBytes (value : Int32) : List UInt8 :=
  BigEndian.bytes4 value.toUInt32

def pairBytes (pair : Int32 × Int32) : List UInt8 :=
  wordBytes pair.1 ++ wordBytes pair.2

def opcode : Form → UInt8
  | fixed opcode _ => opcode
  | wide _ _ => 0xc4
  | tableSwitch .. => 0xaa
  | lookupSwitch .. => 0xab

def operands : Form → List UInt8
  | fixed _ operands => operands
  | wide opcode operands => opcode :: operands
  | tableSwitch padding default low high cases =>
      padding ++ (wordBytes default ++ (wordBytes low ++ (wordBytes high ++
        cases.flatMap wordBytes)))
  | lookupSwitch padding default count cases =>
      padding ++ (wordBytes default ++ (wordBytes count ++ cases.flatMap pairBytes))

def bytes (form : Form) : List UInt8 :=
  form.opcode :: form.operands

def size (form : Form) : Nat :=
  form.bytes.length

/-- Is the instruction complete when it starts at `offset`? The operands of a switch start at the
next multiple of four, and its cases are as many as it says. -/
inductive Complete (offset : Nat) : Form → Prop where
  | fixed {opcode : UInt8} {operands : List UInt8}
      (charted : lengthChart[opcode.toNat]? = some (operands.length + 1)) :
      Complete offset (.fixed opcode operands)
  | wideIncrement {operands : List UInt8} (count : operands.length = 4) :
      Complete offset (.wide 0x84 operands)
  | wide {opcode : UInt8} {operands : List UInt8} (other : opcode ≠ 0x84)
      (count : operands.length = 2) :
      Complete offset (.wide opcode operands)
  | tableSwitch {padding : List UInt8} {default low high : Int32} {cases : List Int32}
      (short : padding.length < 4) (aligned : 4 ∣ offset + 1 + padding.length)
      (counted : (cases.length : Int) = high.toInt - low.toInt + 1) :
      Complete offset (.tableSwitch padding default low high cases)
  | lookupSwitch {padding : List UInt8} {default count : Int32} {cases : List (Int32 × Int32)}
      (short : padding.length < 4) (aligned : 4 ∣ offset + 1 + padding.length)
      (counted : (cases.length : Int) = count.toInt) :
      Complete offset (.lookupSwitch padding default count cases)

/-! ## Jumps -/

/-- Is this the opcode of a jump with a distance of 16 bits: `ifeq` to `jsr`, `ifnull` or
`ifnonnull`? -/
def isNearJump (opcode : UInt8) : Bool :=
  (0x99 ≤ opcode && opcode ≤ 0xa8) || opcode == 0xc6 || opcode == 0xc7

/-- Is this the opcode of a jump with a distance of 32 bits: `goto_w` or `jsr_w`? -/
def isFarJump (opcode : UInt8) : Bool :=
  opcode == 0xc8 || opcode == 0xc9

def distances : Form → List Int
  | fixed opcode [a, b] =>
      if isNearJump opcode then [(BigEndian.u2 a b).toInt16.toInt] else []
  | fixed opcode [a, b, c, d] =>
      if isFarJump opcode then [(BigEndian.u4 a b c d).toInt32.toInt] else []
  | fixed _ _ => []
  | wide _ _ => []
  | tableSwitch _ default _ _ cases => default.toInt :: cases.map (·.toInt)
  | lookupSwitch _ default _ cases => default.toInt :: cases.map (·.2.toInt)

/-- Is the instruction `jsr` or `jsr_w`, after which the subroutine comes back? -/
def callsSubroutine : Form → Bool
  | fixed opcode _ => opcode == 0xa8 || opcode == 0xc9
  | _ => false

/-- May the instruction at `place` send control to `target`, other than by going on? -/
inductive LeadsTo (place : Nat) (form : Form) (target : Nat) : Prop where
  | jump {distance : Int} (held : distance ∈ form.distances)
      (lands : (place : Int) + distance = target)
  | comeBack (calls : form.callsSubroutine = true) (next : place + form.size = target)

/-! ## Look-ups and effects -/

def callOpcodes : List (UInt8 × CallKind) :=
  [(0xb6, .virtual), (0xb7, .special), (0xb8, .static), (0xb9, .interface)]

/-- The opcodes of the instructions that push one value of unknown content: `aconst_null`, the
constants `lconst_0` to `dconst_1`, the loads of local variables, and `getstatic`. -/
def pushOpcodes : List UInt8 :=
  [0x01, 0x09, 0x0a, 0x0b, 0x0c, 0x0d, 0x0e, 0x0f, 0x15, 0x16, 0x17, 0x18, 0x19,
   0x1a, 0x1b, 0x1c, 0x1d, 0x1e, 0x1f, 0x20, 0x21, 0x22, 0x23, 0x24, 0x25, 0x26, 0x27, 0x28,
   0x29, 0x2a, 0x2b, 0x2c, 0x2d, 0xb2]

/-- The opcodes `iconst_m1` to `iconst_5`, whose value stands in the opcode. -/
def smallOpcodes : List UInt8 :=
  [0x02, 0x03, 0x04, 0x05, 0x06, 0x07, 0x08]

/-- The opcodes `bipush`, `sipush`, `ldc`, `ldc_w` and `ldc2_w`, whose value is an operand. -/
def operandOpcodes : List UInt8 :=
  [0x10, 0x11, 0x12, 0x13, 0x14]

def calleeIndex? : Form → Option UInt16
  | fixed opcode (a :: b :: _) =>
      if opcode ∈ callOpcodes.map Prod.fst then some (BigEndian.u2 a b) else none
  | _ => none

def literalIndex? : Form → Option UInt16
  | fixed opcode [a] => if opcode = 0x12 then some a.toUInt16 else none
  | fixed opcode [a, b] =>
      if opcode = 0x13 ∨ opcode = 0x14 then some (BigEndian.u2 a b) else none
  | _ => none

/-- The effect that the instruction denotes, given the answers of the constant pool. A literal of
64 bits counts only when it is loaded by `ldc2_w`, any other only when it is not. -/
inductive Denotes (symbols : Symbols) : Form → Effect → Prop where
  | call {opcode a b : UInt8} {more : List UInt8} {kind : CallKind} {callee : MethodSymbol}
      (calls : (opcode, kind) ∈ callOpcodes)
      (found : symbols.method (BigEndian.u2 a b) = .ok callee) :
      Denotes symbols (.fixed opcode (a :: b :: more)) (.invoke kind callee)
  | literal {opcode : UInt8} {operands : List UInt8} {index : UInt16} {value : Literal}
      (narrow : opcode ≠ 0x14) (loads : (fixed opcode operands).literalIndex? = some index)
      (found : symbols.literal index = .ok (some value)) (fits : ∀ long, value ≠ .long long) :
      Denotes symbols (.fixed opcode operands) (.constant value)
  | noLiteral {opcode : UInt8} {operands : List UInt8} {index : UInt16} {value : Option Literal}
      (narrow : opcode ≠ 0x14) (loads : (fixed opcode operands).literalIndex? = some index)
      (found : symbols.literal index = .ok value) (misfit : ∀ fit, value = some fit →
        ∃ long, fit = .long long) :
      Denotes symbols (.fixed opcode operands) (.push opcode)
  | longLiteral {a b : UInt8} {value : Int64}
      (found : symbols.literal (BigEndian.u2 a b) = .ok (some (.long value))) :
      Denotes symbols (.fixed 0x14 [a, b]) (.constant (.long value))
  | noLongLiteral {a b : UInt8} {value : Option Literal}
      (found : symbols.literal (BigEndian.u2 a b) = .ok value)
      (misfit : ∀ long, value ≠ some (.long long)) :
      Denotes symbols (.fixed 0x14 [a, b]) (.push 0x14)
  | small {opcode : UInt8} (listed : opcode ∈ smallOpcodes) :
      Denotes symbols (.fixed opcode []) (.constant (.int (Int32.ofInt (opcode.toNat - 3))))
  | signedByte {a : UInt8} :
      Denotes symbols (.fixed 0x10 [a]) (.constant (.int (Int32.ofInt a.toInt8.toInt)))
  | signedHalf {a b : UInt8} :
      Denotes symbols (.fixed 0x11 [a, b])
        (.constant (.int (Int32.ofInt (BigEndian.u2 a b).toInt16.toInt)))
  | push {opcode : UInt8} {operands : List UInt8} (listed : opcode ∈ pushOpcodes) :
      Denotes symbols (.fixed opcode operands) (.push opcode)
  | other {opcode : UInt8} {operands : List UInt8}
      (unlisted : opcode ∉ callOpcodes.map Prod.fst ++ pushOpcodes ++ smallOpcodes ++
        operandOpcodes) :
      Denotes symbols (.fixed opcode operands) (.other opcode)
  | widePush {opcode : UInt8} {operands : List UInt8}
      (loads : opcode ∈ [0x15, 0x16, 0x17, 0x18, 0x19]) :
      Denotes symbols (.wide opcode operands) (.push 0xc4)
  | wideOther {opcode : UInt8} {operands : List UInt8}
      (loadsNot : opcode ∉ [0x15, 0x16, 0x17, 0x18, 0x19]) :
      Denotes symbols (.wide opcode operands) (.other 0xc4)
  | tableSwitch {padding : List UInt8} {default low high : Int32} {cases : List Int32} :
      Denotes symbols (.tableSwitch padding default low high cases) (.other 0xaa)
  | lookupSwitch {padding : List UInt8} {default count : Int32} {cases : List (Int32 × Int32)} :
      Denotes symbols (.lookupSwitch padding default count cases) (.other 0xab)

end Form

end GrantSurvey.ClassFile.Bytecode
