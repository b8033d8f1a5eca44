import GrantSurvey.Proofs.InstructionReading

/-!
# Which bytes the decoder looks at

The decoder as a computation that looks at single bytes of a method body by their offsets. It
decides after each of them how to go on, so a run tells which bytes have been looked at. It gives
the same as the decoder does, also where bytes are missing, and bytes that a run does not look at
make no difference to it.
-/

namespace GrantSurvey.ClassFile.Bytecode

open Outcome

/-- A computation that looks at bytes of a body. It fails with `missing` where there is no byte. -/
inductive Inspection (α : Type) where
  | done (result : Except Fault α)
  | look (place : Nat) (missing : Fault) (next : UInt8 → Inspection α)

namespace Inspection

variable {α β : Type}

def run (code : List UInt8) : Inspection α → Except Fault α
  | done result => result
  | look place missing next =>
      match code[place]? with
      | some byte => (next byte).run code
      | none => .error missing

def places (code : List UInt8) : Inspection α → List Nat
  | done _ => []
  | look place _ next =>
      match code[place]? with
      | some byte => place :: (next byte).places code
      | none => [place]

def bind : Inspection α → (α → Inspection β) → Inspection β
  | done (.ok value), next => next value
  | done (.error fault), _ => done (.error fault)
  | look place missing more, next => look place missing fun byte => (more byte).bind next

instance : Monad Inspection where
  pure value := done (.ok value)
  bind := bind

theorem run_pure (code : List UInt8) (value : α) :
    (pure value : Inspection α).run code = .ok value := rfl

theorem run_bind (code : List UInt8) (inspection : Inspection α) (next : α → Inspection β) :
    (inspection >>= next).run code = inspection.run code >>= fun value => (next value).run code := by
  change (inspection.bind next).run code = _
  induction inspection with
  | done result => cases result <;> rfl
  | look place missing more ih =>
      simp only [bind, run]
      cases code[place]? with
      | none => rfl
      | some byte => exact ih byte

/-- Only the bytes that a run looks at make a difference. -/
theorem run_congr {code other : List UInt8} {inspection : Inspection α}
    (agree : ∀ place ∈ inspection.places code, other[place]? = code[place]?) :
    inspection.run other = inspection.run code := by
  induction inspection with
  | done result => rfl
  | look place missing next ih =>
      simp only [places] at agree
      cases found : code[place]? with
      | none =>
          rw [found] at agree
          simp only [run, found, agree place (List.mem_singleton_self _)]
      | some byte =>
          rw [found] at agree
          obtain ⟨here, later⟩ := List.forall_mem_cons.mp agree
          simp only [run, found, here]
          exact ih byte later

/-! ## Where a run looks -/

/-- A run looks only at offsets from `low` on and before `high`. -/
def Stays (code : List UInt8) (low high : Nat) (inspection : Inspection α) : Prop :=
  ∀ place ∈ inspection.places code, low ≤ place ∧ place < high

section Stays

variable {code : List UInt8} {low high : Nat}

theorem stays_done (result : Except Fault α) : Stays code low high (done result) := by
  intro place member
  cases member

theorem stays_pure (value : α) : Stays code low high (pure value) :=
  stays_done (.ok value)

theorem stays_look {place : Nat} {missing : Fault} {next : UInt8 → Inspection α} (least : low ≤ place)
    (most : place < high) (stays : ∀ byte, Stays code low high (next byte)) :
    Stays code low high (look place missing next) := by
  intro other member
  simp only [places] at member
  cases found : code[place]? with
  | none =>
      rw [found, List.mem_singleton] at member
      exact member ▸ ⟨least, most⟩
  | some byte =>
      rw [found, List.mem_cons] at member
      rcases member with rfl | later
      · exact ⟨least, most⟩
      · exact stays byte other later

theorem Stays.bind {inspection : Inspection α} {next : α → Inspection β}
    (stays : Stays code low high inspection)
    (after : ∀ value, inspection.run code = .ok value → Stays code low high (next value)) :
    Stays code low high (inspection >>= next) := by
  change Stays code low high (inspection.bind next)
  induction inspection with
  | done result =>
      cases result with
      | error fault => exact stays_done _
      | ok value => exact after value rfl
  | look place missing more ih =>
      intro other member
      simp only [Inspection.bind, places] at member
      cases found : code[place]? with
      | none =>
          rw [found] at member
          exact stays other (by simpa only [places, found] using member)
      | some byte =>
          rw [found, List.mem_cons] at member
          rcases member with rfl | later
          · exact stays other (by simp [places, found])
          · refine ih byte (fun place inside => stays place ?_) (fun value read => after value ?_)
              other later
            · simp [places, found, inside]
            · simpa only [run, found] using read

theorem stays_ite {condition : Prop} [Decidable condition] {first second : Inspection α}
    (holds : condition → Stays code low high first)
    (fails : ¬condition → Stays code low high second) :
    Stays code low high (if condition then first else second) := by
  split
  · exact holds ‹_›
  · exact fails ‹_›

end Stays

/-! ## What a run fails with -/

/-- Apart from bytes that are not there, the computation fails with nothing but such faults. -/
def RaisesOnly (faults : Fault → Prop) : Inspection α → Prop
  | done result => ∀ fault, result = .error fault → faults fault
  | look _ _ next => ∀ byte, (next byte).RaisesOnly faults

section RaisesOnly

variable {faults : Fault → Prop}

/-- Where no byte is missing, a run fails with such a fault, if it fails. -/
theorem RaisesOnly.of_run {code : List UInt8} {inspection : Inspection α}
    (raises : inspection.RaisesOnly faults)
    (inside : ∀ place ∈ inspection.places code, place < code.length) {fault : Fault}
    (failed : inspection.run code = .error fault) : faults fault := by
  induction inspection with
  | done result => exact raises fault failed
  | look place missing next ih =>
      simp only [places] at inside
      cases found : code[place]? with
      | none =>
          rw [found] at inside
          exact absurd (inside place (List.mem_singleton_self _))
            (Nat.not_lt.mpr (List.getElem?_eq_none_iff.mp found))
      | some byte =>
          rw [found] at inside
          simp only [run, found] at failed
          exact ih byte (raises byte) (List.forall_mem_cons.mp inside).2 failed

theorem raisesOnly_pure (value : α) : (pure value : Inspection α).RaisesOnly faults := by
  intro fault failed
  cases failed

theorem RaisesOnly.bind {inspection : Inspection α} {next : α → Inspection β}
    (raises : inspection.RaisesOnly faults) (after : ∀ value, (next value).RaisesOnly faults) :
    (inspection >>= next).RaisesOnly faults := by
  change (inspection.bind next).RaisesOnly faults
  induction inspection with
  | done result =>
      cases result with
      | error fault =>
          intro other failed
          cases failed
          exact raises fault rfl
      | ok value => exact after value
  | look place missing more ih => exact fun byte => ih byte (raises byte)

theorem raisesOnly_ite {condition : Prop} [Decidable condition] {first second : Inspection α}
    (holds : first.RaisesOnly faults) (fails : second.RaisesOnly faults) :
    (if condition then first else second).RaisesOnly faults := by
  split
  · exact holds
  · exact fails

end RaisesOnly

/-! ## Operands -/

def byteAt (place : Nat) : Inspection UInt8 :=
  look place (.shortOperand 8) fun a => done (.ok a)

def halfAt (place : Nat) : Inspection UInt16 :=
  look place (.shortOperand 16) fun a => look (place + 1) (.shortOperand 16) fun b =>
    done (.ok (BigEndian.u2 a b))

def wordAt (place : Nat) : Inspection Int :=
  look place (.shortOperand 32) fun a => look (place + 1) (.shortOperand 32) fun b =>
    look (place + 2) (.shortOperand 32) fun c => look (place + 3) (.shortOperand 32) fun d =>
      done (.ok (BigEndian.u4 a b c d).toInt32.toInt)

/-- A number of signed numbers, each `stride` bytes after the one before. -/
def wordsAt (stride : Nat) : (count place : Nat) → Inspection (List Int)
  | 0, _ => pure []
  | count + 1, place => do
      let first ← wordAt place
      let others ← wordsAt stride count (place + stride)
      return first :: others

section Operands

variable (code : List UInt8) (place : Nat)

theorem getElem?_add (index : Nat) : code[place + index]? = (code.drop place)[index]? :=
  List.getElem?_drop.symm

theorem run_byteAt : (byteAt place).run code = byte (code.drop place) := by
  rw [byteAt, run, ← Nat.add_zero place, getElem?_add, Nat.add_zero]
  rcases code.drop place with _ | ⟨a, rest⟩ <;> rfl

theorem run_halfAt : (halfAt place).run code = half (code.drop place) := by
  have first := getElem?_add code place 0
  simp only [Nat.add_zero] at first
  simp only [halfAt, run, getElem?_add, first]
  rcases code.drop place with _ | ⟨a, _ | ⟨b, rest⟩⟩ <;> rfl

theorem run_wordAt : (wordAt place).run code = word (code.drop place) := by
  have first := getElem?_add code place 0
  simp only [Nat.add_zero] at first
  simp only [wordAt, run, getElem?_add, first]
  rcases code.drop place with _ | ⟨a, _ | ⟨b, _ | ⟨c, _ | ⟨d, rest⟩⟩⟩⟩ <;> rfl

theorem run_wordsAt (stride count : Nat) :
    (wordsAt stride count place).run code = words stride count (code.drop place) := by
  induction count generalizing place with
  | zero => rfl
  | succ count ih =>
      simp only [wordsAt, run_bind, run_wordAt, ih, run_pure, words, List.drop_drop, pure_eq_ok]

variable {code place} {low high : Nat}

theorem stays_byteAt (least : low ≤ place) (most : place < high) :
    Stays code low high (byteAt place) :=
  stays_look least most fun _ => stays_done _

theorem stays_halfAt (least : low ≤ place) (most : place + 2 ≤ high) :
    Stays code low high (halfAt place) :=
  stays_look least (by omega) fun _ => stays_look (by omega) (by omega) fun _ => stays_done _

theorem stays_wordAt (least : low ≤ place) (most : place + 4 ≤ high) :
    Stays code low high (wordAt place) :=
  stays_look least (by omega) fun _ => stays_look (by omega) (by omega) fun _ =>
    stays_look (by omega) (by omega) fun _ => stays_look (by omega) (by omega) fun _ => stays_done _

/-- The last number ends where the next one would start, or before. -/
theorem stays_wordsAt {stride count : Nat} (wide : 4 ≤ stride) (least : low ≤ place)
    (most : place + count * stride ≤ high + (stride - 4)) :
    Stays code low high (wordsAt stride count place) := by
  induction count generalizing place with
  | zero => exact stays_pure []
  | succ count ih =>
      rw [Nat.succ_mul] at most
      refine (stays_wordAt least (by omega)).bind fun first _ => ?_
      refine (ih (by omega) (by omega)).bind fun others _ => ?_
      exact stays_pure _

theorem raisesOnly_byteAt {faults : Fault → Prop} : (byteAt place).RaisesOnly faults :=
  fun a => raisesOnly_pure a

theorem raisesOnly_halfAt {faults : Fault → Prop} : (halfAt place).RaisesOnly faults :=
  fun a b => raisesOnly_pure (BigEndian.u2 a b)

end Operands

/-! ## One instruction -/

def lengthAt (offset : Nat) : Inspection Nat := do
  let opcode ← byteAt offset
  let operands := offset + 1 + padding offset
  match Opcode.shape opcode with
  | .fixed length => return length
  | .wide =>
      look (offset + 1) (.truncatedWide offset) fun widened =>
        done (.ok (if widened == Opcode.iinc then 6 else 4))
  | .tableSwitch => do
      let low ← wordAt (operands + 4)
      let high ← wordAt (operands + 8)
      done (switchLength offset 12 4 (high - low + 1))
  | .lookupSwitch => do
      let count ← wordAt (operands + 4)
      done (switchLength offset 8 8 count)
  | .undefined => done (.error (.unsupportedOpcode opcode))

def effectAt (symbols : Symbols) (offset : Nat) : Inspection Effect := do
  let opcode ← byteAt offset
  match callKind? opcode with
  | some kind => do
      let index ← halfAt (offset + 1)
      let callee ← done (inPlace (.callAt offset) (symbols.method index))
      return .invoke kind callee
  | none =>
      if opcode == Opcode.ldc then do
        let index ← byteAt (offset + 1)
        return loadNarrow opcode (← done (symbols.literal index.toUInt16))
      else if opcode == Opcode.ldcW then do
        let index ← halfAt (offset + 1)
        return loadNarrow opcode (← done (symbols.literal index))
      else if opcode == Opcode.ldc2W then do
        let index ← halfAt (offset + 1)
        return loadWide opcode (← done (symbols.literal index))
      else if Opcode.between Opcode.iconstM1 Opcode.iconst5 opcode then
        return .constant (.int (opcode.toInt8.toInt32 - Opcode.iconst0.toInt8.toInt32))
      else if opcode == Opcode.bipush then do
        return .constant (.int (← byteAt (offset + 1)).toInt8.toInt32)
      else if opcode == Opcode.sipush then do
        return .constant (.int (← halfAt (offset + 1)).toInt16.toInt32)
      else if Opcode.pushesOne opcode then return .push opcode
      else if opcode == Opcode.wide then do
        let widened ← byteAt (offset + 1)
        return if Opcode.between Opcode.iload Opcode.aload widened then .push opcode
          else .other opcode
      else return .other opcode

/-- The distances of the jumps that the instruction at `offset` holds. -/
def jumpsAt (offset : Nat) : Inspection (List Int) := do
  let opcode ← byteAt offset
  let operands := offset + 1 + padding offset
  if Opcode.jumpsNear opcode then do
    return [(← halfAt (offset + 1)).toInt16.toInt]
  else if Opcode.jumpsFar opcode then do
    return [← wordAt (offset + 1)]
  else if opcode == Opcode.tableswitch then do
    let default ← wordAt operands
    let low ← wordAt (operands + 4)
    let high ← wordAt (operands + 8)
    return default :: (← wordsAt 4 (high - low + 1).toNat (operands + 12))
  else if opcode == Opcode.lookupswitch then do
    let default ← wordAt operands
    let count ← wordAt (operands + 4)
    return default :: (← wordsAt 8 count.toNat (operands + 12))
  else return []

theorem run_ite {condition : Prop} [Decidable condition] (code : List UInt8)
    (first second : Inspection α) :
    (if condition then first else second).run code =
      if condition then first.run code else second.run code := by
  split <;> rfl

theorem run_done (code : List UInt8) (result : Except Fault α) : (done result).run code = result :=
  rfl

section Decoder

variable {code operands : List UInt8} {offset : Nat} {opcode : UInt8}

/-- What stands behind an opcode. -/
theorem drop_succ_of_stands (stands : code.drop offset = opcode :: operands) :
    code.drop (offset + 1) = operands := by
  rw [← List.drop_drop, stands, List.drop_one, List.tail_cons]

theorem getElem?_succ_of_stands (stands : code.drop offset = opcode :: operands) :
    code[offset + 1]? = operands[0]? := by
  rw [← drop_succ_of_stands stands, ← getElem?_add, Nat.add_zero]

theorem run_byteAt_of_stands (stands : code.drop offset = opcode :: operands) :
    (byteAt offset).run code = .ok opcode := by
  rw [run_byteAt, stands, byte]

/-- The length that the decoder finds. -/
theorem run_lengthAt (stands : code.drop offset = opcode :: operands) :
    (lengthAt offset).run code = length offset opcode operands := by
  have behind := drop_succ_of_stands stands
  rw [lengthAt, run_bind, run_byteAt_of_stands stands, ok_bind, length.eq_def]
  cases Opcode.shape opcode with
  | fixed count => rfl
  | wide =>
      simp only [run, getElem?_succ_of_stands stands]
      cases operands <;> rfl
  | tableSwitch =>
      simp only [run_bind, run_wordAt, ← List.drop_drop, behind, run_done, tableCases, bind_assoc,
        pure_eq_ok, ok_bind]
  | lookupSwitch =>
      simp only [run_bind, run_wordAt, ← List.drop_drop, behind, run_done, lookupCases]
  | undefined => rfl

/-- The effect that the decoder finds. -/
theorem run_effectAt (symbols : Symbols) (stands : code.drop offset = opcode :: operands) :
    (effectAt symbols offset).run code = effect symbols offset opcode operands := by
  have behind := drop_succ_of_stands stands
  rw [effectAt, run_bind, run_byteAt_of_stands stands, ok_bind, effect]
  cases callKind? opcode with
  | some kind => simp only [run_bind, run_halfAt, behind, run_done, run_pure, pure_eq_ok]
  | none =>
      simp only [run_ite, run_bind, run_byteAt, run_halfAt, behind, run_done, run_pure, pure_eq_ok]

/-- The distances that the decoder finds. -/
theorem run_jumpsAt (stands : code.drop offset = opcode :: operands) :
    (jumpsAt offset).run code = jumps offset opcode operands := by
  have behind := drop_succ_of_stands stands
  rw [jumpsAt, run_bind, run_byteAt_of_stands stands, ok_bind, jumps]
  simp only [run_ite, run_bind, run_wordAt, run_halfAt, run_wordsAt, ← List.drop_drop, behind,
    run_pure, pure_eq_ok, tableCases, lookupCases, bind_assoc, ok_bind]

end Decoder

/-! ## The bytes of an instruction -/

section Instruction

variable {code operands : List UInt8} {offset size : Nat} {opcode : UInt8}

theorem size_of_shape {count : Nat} (shape : Opcode.shape opcode = .fixed count)
    (measured : length offset opcode operands = .ok size) : size = count := by
  simp only [length, shape, Except.ok.injEq] at measured
  exact measured.symm

theorem size_of_switchLength {header caseSize : Nat} {cases : Int}
    (measured : switchLength offset header caseSize cases = .ok size) :
    0 ≤ cases ∧ size = 1 + padding offset + header + cases.toNat * caseSize := by
  unfold switchLength at measured
  split at measured
  · cases measured
  · cases measured
    exact ⟨by omega, rfl⟩

/-- What a switch over a range is measured by. -/
theorem exists_of_length_tableSwitch
    (measured : length offset Opcode.tableswitch operands = .ok size) :
    ∃ low high : Int, word ((operands.drop (padding offset)).drop 4) = .ok low ∧
      word ((operands.drop (padding offset)).drop 8) = .ok high ∧ 0 ≤ high - low + 1 ∧
      size = 1 + padding offset + 12 + (high - low + 1).toNat * 4 := by
  obtain ⟨cases, counted, measured⟩ := bind_eq_ok_iff.mp measured
  obtain ⟨low, lowest, counted⟩ := bind_eq_ok_iff.mp counted
  obtain ⟨high, highest, counted⟩ := bind_eq_ok_iff.mp counted
  cases counted
  exact ⟨low, high, lowest, highest, size_of_switchLength measured⟩

/-- What a switch over listed values is measured by. -/
theorem exists_of_length_lookupSwitch
    (measured : length offset Opcode.lookupswitch operands = .ok size) :
    ∃ count : Int, word ((operands.drop (padding offset)).drop 4) = .ok count ∧ 0 ≤ count ∧
      size = 1 + padding offset + 8 + count.toNat * 8 := by
  obtain ⟨count, counted, measured⟩ := bind_eq_ok_iff.mp measured
  exact ⟨count, counted, size_of_switchLength measured⟩

theorem size_pos (measured : length offset opcode operands = .ok size) : 0 < size := by
  cases shape : Opcode.shape opcode with
  | fixed count =>
      rw [size_of_shape shape measured]
      refine Nat.pos_of_ne_zero ?_
      rintro rfl
      exact shape_ne_fixed_zero opcode shape
  | wide =>
      simp only [length, shape] at measured
      split at measured
      · cases measured
        split <;> decide
      · cases measured
  | tableSwitch =>
      obtain rfl := (shape_eq_tableSwitch_iff opcode).mp shape
      obtain ⟨_, _, -, -, -, rfl⟩ := exists_of_length_tableSwitch measured
      omega
  | lookupSwitch =>
      obtain rfl := (shape_eq_lookupSwitch_iff opcode).mp shape
      obtain ⟨_, -, -, rfl⟩ := exists_of_length_lookupSwitch measured
      omega
  | undefined => simp only [length, shape, reduceCtorEq] at measured

theorem two_le_of_wide (measured : length offset Opcode.wide operands = .ok size) : 2 ≤ size := by
  cases operands with
  | nil => cases measured
  | cons widened operands =>
      cases measured
      split <;> decide

theorem three_le_of_call {kind : CallKind} (calls : callKind? opcode = some kind)
    (measured : length offset opcode operands = .ok size) : 3 ≤ size := by
  rw [callKind?_eq_some_iff, Form.callOpcodes] at calls
  simp only [List.mem_cons, Prod.mk.injEq, List.not_mem_nil, or_false] at calls
  rcases calls with ⟨rfl, -⟩ | ⟨rfl, -⟩ | ⟨rfl, -⟩ | ⟨rfl, -⟩ <;> cases measured <;> decide

/-- The length is told by bytes of the instruction. -/
theorem stays_lengthAt (stands : code.drop offset = opcode :: operands)
    (measured : length offset opcode operands = .ok size) :
    Stays code offset (offset + size) (lengthAt offset) := by
  have positive := size_pos measured
  refine (stays_byteAt (by omega) (by omega)).bind fun found read => ?_
  obtain rfl := Except.ok.inj ((run_byteAt_of_stands stands).symm.trans read)
  cases shape : Opcode.shape opcode with
  | fixed count => exact stays_pure _
  | wide =>
      obtain rfl := (shape_eq_wide_iff opcode).mp shape
      have two := two_le_of_wide measured
      exact stays_look (by omega) (by omega) fun _ => stays_done _
  | tableSwitch =>
      obtain rfl := (shape_eq_tableSwitch_iff opcode).mp shape
      obtain ⟨_, _, -, -, -, rfl⟩ := exists_of_length_tableSwitch measured
      exact (stays_wordAt (by omega) (by omega)).bind fun _ _ =>
        (stays_wordAt (by omega) (by omega)).bind fun _ _ => stays_done _
  | lookupSwitch =>
      obtain rfl := (shape_eq_lookupSwitch_iff opcode).mp shape
      obtain ⟨_, -, -, rfl⟩ := exists_of_length_lookupSwitch measured
      exact (stays_wordAt (by omega) (by omega)).bind fun _ _ => stays_done _
  | undefined => exact stays_done _

/-- The effect is told by bytes of the instruction. -/
theorem stays_effectAt (symbols : Symbols) (stands : code.drop offset = opcode :: operands)
    (measured : length offset opcode operands = .ok size) :
    Stays code offset (offset + size) (effectAt symbols offset) := by
  have positive := size_pos measured
  refine (stays_byteAt (by omega) (by omega)).bind fun found read => ?_
  obtain rfl := Except.ok.inj ((run_byteAt_of_stands stands).symm.trans read)
  cases calls : callKind? opcode with
  | some kind =>
      have three := three_le_of_call calls measured
      exact (stays_halfAt (by omega) (by omega)).bind fun _ _ => (stays_done _).bind fun _ _ =>
        stays_pure _
  | none =>
      refine stays_ite (fun ldc => ?_) fun _ => stays_ite (fun ldcW => ?_) fun _ =>
        stays_ite (fun ldc2W => ?_) fun _ => stays_ite (fun _ => stays_pure _) fun _ =>
        stays_ite (fun bipush => ?_) fun _ => stays_ite (fun sipush => ?_) fun _ =>
        stays_ite (fun _ => stays_pure _) fun _ => stays_ite (fun wide => ?_) fun _ =>
        stays_pure _
      · obtain rfl := eq_of_beq ldc
        have two : size = 2 := size_of_shape rfl measured
        exact (stays_byteAt (by omega) (by omega)).bind fun _ _ => (stays_done _).bind fun _ _ =>
          stays_pure _
      · obtain rfl := eq_of_beq ldcW
        have three : size = 3 := size_of_shape rfl measured
        exact (stays_halfAt (by omega) (by omega)).bind fun _ _ => (stays_done _).bind fun _ _ =>
          stays_pure _
      · obtain rfl := eq_of_beq ldc2W
        have three : size = 3 := size_of_shape rfl measured
        exact (stays_halfAt (by omega) (by omega)).bind fun _ _ => (stays_done _).bind fun _ _ =>
          stays_pure _
      · obtain rfl := eq_of_beq bipush
        have two : size = 2 := size_of_shape rfl measured
        exact (stays_byteAt (by omega) (by omega)).bind fun _ _ => stays_pure _
      · obtain rfl := eq_of_beq sipush
        have three : size = 3 := size_of_shape rfl measured
        exact (stays_halfAt (by omega) (by omega)).bind fun _ _ => stays_pure _
      · obtain rfl := eq_of_beq wide
        have two := two_le_of_wide measured
        exact (stays_byteAt (by omega) (by omega)).bind fun _ _ => stays_pure _

/-- The jumps are told by bytes of the instruction. -/
theorem stays_jumpsAt (stands : code.drop offset = opcode :: operands)
    (measured : length offset opcode operands = .ok size) :
    Stays code offset (offset + size) (jumpsAt offset) := by
  have positive := size_pos measured
  have behind := drop_succ_of_stands stands
  refine (stays_byteAt (by omega) (by omega)).bind fun found read => ?_
  obtain rfl := Except.ok.inj ((run_byteAt_of_stands stands).symm.trans read)
  refine stays_ite (fun near => ?_) fun _ => stays_ite (fun far => ?_) fun _ =>
    stays_ite (fun table => ?_) fun _ => stays_ite (fun lookup => ?_) fun _ => stays_pure _
  · rw [jumpsNear_eq] at near
    have three := size_of_shape
      ((shape_eq_fixed_iff opcode 2).mpr (chart_of_isNearJump opcode near)) measured
    exact (stays_halfAt (by omega) (by omega)).bind fun _ _ => stays_pure _
  · rw [jumpsFar_eq] at far
    have five := size_of_shape
      ((shape_eq_fixed_iff opcode 4).mpr (chart_of_isFarJump opcode far).2) measured
    exact (stays_wordAt (by omega) (by omega)).bind fun _ _ => stays_pure _
  · obtain rfl := eq_of_beq table
    obtain ⟨low, high, lowest, highest, -, rfl⟩ := exists_of_length_tableSwitch measured
    refine (stays_wordAt (by omega) (by omega)).bind fun _ _ => ?_
    refine (stays_wordAt (by omega) (by omega)).bind fun low' read => ?_
    refine (stays_wordAt (by omega) (by omega)).bind fun high' read' => ?_
    -- The cases that are read are the cases that were counted.
    simp only [run_wordAt, ← List.drop_drop, behind, lowest, highest, Except.ok.injEq] at read read'
    subst read read'
    exact (stays_wordsAt (by decide) (by omega) (by omega)).bind fun _ _ => stays_pure _
  · obtain rfl := eq_of_beq lookup
    obtain ⟨count, counted, -, rfl⟩ := exists_of_length_lookupSwitch measured
    refine (stays_wordAt (by omega) (by omega)).bind fun _ _ => ?_
    refine (stays_wordAt (by omega) (by omega)).bind fun count' read => ?_
    simp only [run_wordAt, ← List.drop_drop, behind, counted, Except.ok.injEq] at read
    subst read
    exact (stays_wordsAt (by decide) (by omega) (by omega)).bind fun _ _ => stays_pure _

end Instruction

/-- The faults of the look-ups in the constant pool for the instruction at `offset`. -/
def LookupFault (symbols : Symbols) (offset : Nat) (fault : Fault) : Prop :=
  ∃ index, inPlace (.callAt offset) (symbols.method index) = .error fault ∨
    symbols.literal index = .error fault

/-- Only a look-up makes the decoder fail to find an effect. -/
theorem raisesOnly_effectAt (symbols : Symbols) (offset : Nat) :
    (effectAt symbols offset).RaisesOnly (LookupFault symbols offset) := by
  have literal (index : UInt16) :
      (done (symbols.literal index)).RaisesOnly (LookupFault symbols offset) :=
    fun _ failed => ⟨index, .inr failed⟩
  refine raisesOnly_byteAt.bind fun opcode => ?_
  cases callKind? opcode with
  | some kind =>
      refine raisesOnly_halfAt.bind fun index => RaisesOnly.bind ?_ fun _ => raisesOnly_pure _
      exact fun fault failed => ⟨index, .inl failed⟩
  | none =>
      refine raisesOnly_ite ?_ <| raisesOnly_ite ?_ <| raisesOnly_ite ?_ <|
        raisesOnly_ite (raisesOnly_pure _) <| raisesOnly_ite ?_ <| raisesOnly_ite ?_ <|
        raisesOnly_ite (raisesOnly_pure _) <| raisesOnly_ite ?_ <| raisesOnly_pure _
      · exact raisesOnly_byteAt.bind fun index => (literal _).bind fun _ => raisesOnly_pure _
      · exact raisesOnly_halfAt.bind fun index => (literal _).bind fun _ => raisesOnly_pure _
      · exact raisesOnly_halfAt.bind fun index => (literal _).bind fun _ => raisesOnly_pure _
      · exact raisesOnly_byteAt.bind fun _ => raisesOnly_pure _
      · exact raisesOnly_halfAt.bind fun _ => raisesOnly_pure _
      · exact raisesOnly_byteAt.bind fun _ => raisesOnly_pure _

end Inspection

end GrantSurvey.ClassFile.Bytecode
