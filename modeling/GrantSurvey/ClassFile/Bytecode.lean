import GrantSurvey.ClassFile.ConstantPool
import GrantSurvey.ClassFile.Cursor
import GrantSurvey.ClassFile.Opcode

/-!
# Decoding a method body

A body is a sequence of instructions without gaps. Every instruction is decoded from the opcode at
its offset and the bytes after it: first its length, then its effect on the operand stack, then the
offsets that it may send control to. Once all are known, the instructions at which control may
arrive by a jump or as an exception handler are marked.
-/

namespace GrantSurvey.ClassFile.Bytecode

/-! ## Operands -/

def byte : List UInt8 → Except Fault UInt8
  | a :: _ => .ok a
  | [] => .error (.shortOperand 8)

def half : List UInt8 → Except Fault UInt16
  | a :: b :: _ => .ok (BigEndian.u2 a b)
  | _ => .error (.shortOperand 16)

def word : List UInt8 → Except Fault Int
  | a :: b :: c :: d :: _ => .ok (BigEndian.u4 a b c d).toInt32.toInt
  | _ => .error (.shortOperand 32)

/-- A number of signed operands of four bytes, each `stride` bytes after the one before. -/
def words (stride : Nat) : Nat → List UInt8 → Except Fault (List Int)
  | 0, _ => .ok []
  | count + 1, bytes => do
      let first ← word bytes
      let others ← words stride count (bytes.drop stride)
      return first :: others

/-! ## Switches -/

/-- The bytes between a switch opcode and its operands, which start at a multiple of four. -/
def padding (offset : Nat) : Nat :=
  (4 - (offset + 1) % 4) % 4

/-- The number of cases of a switch over a range: `operands` starts at the default. -/
def tableCases (operands : List UInt8) : Except Fault Int := do
  let low ← word (operands.drop 4)
  let high ← word (operands.drop 8)
  return high - low + 1

/-- The number of cases of a switch over listed values: `operands` starts at the default. -/
def lookupCases (operands : List UInt8) : Except Fault Int :=
  word (operands.drop 4)

/-- The length of a switch: what stands before the cases, and the cases. -/
def switchLength (offset header caseSize : Nat) (cases : Int) : Except Fault Nat :=
  if cases < 0 then .error (.negativeSwitch offset)
  else .ok (1 + padding offset + header + cases.toNat * caseSize)

/-! ## One instruction -/

def length (offset : Nat) (opcode : UInt8) (operands : List UInt8) : Except Fault Nat :=
  match Opcode.shape opcode with
  | .fixed length => .ok length
  | .wide =>
      match operands with
      | widened :: _ => .ok (if widened == Opcode.iinc then 6 else 4)
      | [] => .error (.truncatedWide offset)
  | .tableSwitch => do
      let cases ← tableCases (operands.drop (padding offset))
      switchLength offset 12 4 cases
  | .lookupSwitch => do
      let cases ← lookupCases (operands.drop (padding offset))
      switchLength offset 8 8 cases
  | .undefined => .error (.unsupportedOpcode opcode)

def callKind? (opcode : UInt8) : Option CallKind :=
  if opcode == Opcode.invokevirtual then some .virtual
  else if opcode == Opcode.invokespecial then some .special
  else if opcode == Opcode.invokestatic then some .static
  else if opcode == Opcode.invokeinterface then some .interface
  else none

/-- The effect of loading a literal into one stack slot; a wide literal does not fit there. -/
def loadNarrow (opcode : UInt8) : Option Literal → Effect
  | some (.long _) | none => .push opcode
  | some literal => .constant literal

/-- The effect of loading a literal into two stack slots; only a wide literal fits there. -/
def loadWide (opcode : UInt8) : Option Literal → Effect
  | some (.long value) => .constant (.long value)
  | _ => .push opcode

/-- The effect of the instruction at `offset` on the operand stack. -/
def effect (symbols : Symbols) (offset : Nat) (opcode : UInt8) (operands : List UInt8) :
    Except Fault Effect :=
  match callKind? opcode with
  | some kind => do
      let index ← half operands
      let callee ← inPlace (.callAt offset) (symbols.method index)
      return .invoke kind callee
  | none =>
      if opcode == Opcode.ldc then do
        let index ← byte operands
        return loadNarrow opcode (← symbols.literal index.toUInt16)
      else if opcode == Opcode.ldcW then do
        let index ← half operands
        return loadNarrow opcode (← symbols.literal index)
      else if opcode == Opcode.ldc2W then do
        let index ← half operands
        return loadWide opcode (← symbols.literal index)
      else if Opcode.between Opcode.iconstM1 Opcode.iconst5 opcode then
        .ok (.constant (.int (opcode.toInt8.toInt32 - Opcode.iconst0.toInt8.toInt32)))
      else if opcode == Opcode.bipush then do
        return .constant (.int (← byte operands).toInt8.toInt32)
      else if opcode == Opcode.sipush then do
        return .constant (.int (← half operands).toInt16.toInt32)
      else if Opcode.pushesOne opcode then .ok (.push opcode)
      else if opcode == Opcode.wide then do
        let widened ← byte operands
        return if Opcode.between Opcode.iload Opcode.aload widened then .push opcode
          else .other opcode
      else .ok (.other opcode)

/-- The distances of the jumps that the instruction at `offset` holds. -/
def jumps (offset : Nat) (opcode : UInt8) (operands : List UInt8) : Except Fault (List Int) :=
  if Opcode.jumpsNear opcode then do
    return [(← half operands).toInt16.toInt]
  else if Opcode.jumpsFar opcode then do
    return [← word operands]
  else if opcode == Opcode.tableswitch then do
    let operands := operands.drop (padding offset)
    let default ← word operands
    let cases ← tableCases operands
    return default :: (← words 4 cases.toNat (operands.drop 12))
  else if opcode == Opcode.lookupswitch then do
    let operands := operands.drop (padding offset)
    let default ← word operands
    let cases ← lookupCases operands
    return default :: (← words 8 cases.toNat (operands.drop 12))
  else .ok []

/-- The first number that is no offset: offsets have 32 bits. -/
def offsetLimit : Nat := 4294967296

def landing (offset : Nat) (distance : Int) : Except Fault Nat :=
  let target := (offset : Int) + distance
  if target < 0 then .error (.jumpBeforeStart offset)
  else if target < offsetLimit then .ok target.toNat
  else .error (.jumpTooFar offset)

/-- The offsets that the instruction at `offset` may send control to, the next instruction apart.
A subroutine call also counts the place at which the subroutine comes back. -/
def destinations (offset length : Nat) (opcode : UInt8) (operands : List UInt8) :
    Except Fault (List Nat) := do
  let distances ← jumps offset opcode operands
  let targets ← distances.mapM (landing offset)
  return if Opcode.callsSubroutine opcode then targets ++ [offset + length] else targets

/-! ## The whole body -/

/-- An instruction with the offsets it may send control to. -/
structure Step where
  offset : Nat
  effect : Effect
  destinations : List Nat
  deriving DecidableEq, Repr

/-- The instructions of the bytes that stand at `offset` of a body. -/
def steps (symbols : Symbols) (offset : Nat) : List UInt8 → Except Fault (List Step)
  | [] => .ok []
  | opcode :: operands => do
      let length ← length offset opcode operands
      if length = 0 ∨ (operands.take (length - 1)).length < length - 1 then
        .error (.badInstructionLength offset)
      else
        let effect ← effect symbols offset opcode operands
        let destinations ← destinations offset length opcode operands
        let following ← steps symbols (offset + length) (operands.drop (length - 1))
        return { offset, effect, destinations } :: following
  termination_by code => code.length
  decreasing_by simp only [List.length_drop, List.length_cons]; omega

/-- Marks the instructions at which control may arrive from elsewhere. -/
def mark (handlers : List Nat) (steps : List Step) : List Instruction :=
  let arrivals := handlers ++ steps.flatMap (·.destinations)
  steps.map fun step =>
    { offset := step.offset, effect := step.effect, jumpTarget := arrivals.contains step.offset }

/-- The instructions of a method body with the given exception handlers. -/
def decode (symbols : Symbols) (handlers : List Nat) (code : List UInt8) :
    Except Fault (List Instruction) := do
  return mark handlers (← steps symbols 0 code)

end GrantSurvey.ClassFile.Bytecode
