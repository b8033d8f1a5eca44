import GrantSurvey.Proofs.BodyGrammar
import GrantSurvey.Proofs.Inspection

/-!
# Instructions and their own bytes

An instruction that can be measured, and whose bytes all stand in the body, is decoded from these
bytes alone. No operand is then missing, a switch has as many jumps as its length was computed from,
and the numbers that its length is computed with have 64 bits.
-/

namespace GrantSurvey.ClassFile.Bytecode

open Outcome Inspection

/-! ## Arithmetic with 64 bits -/

def unsigned64 (value : Int) : ExceptT Fault Option Nat :=
  if 0 ≤ value ∧ value < 18446744073709551616 then pure value.toNat else ExceptT.mk none

def signed64 (value : Int) : ExceptT Fault Option Int :=
  if -9223372036854775808 ≤ value ∧ value < 9223372036854775808 then pure value
  else ExceptT.mk none

/-- The signed operand of four bytes that stands `count` bytes after `start`. Where it ends has to
be a number of 64 bits, too. -/
def word64 (code : List UInt8) (start count : Nat) : ExceptT Fault Option Int := do
  let place ← unsigned64 (start + count)
  let _ ← unsigned64 (place + 4)
  ExceptT.mk (some (word (code.drop place)))

/-- The bytes before the operands of a switch, as they are computed with 64 bits. -/
def padding64 (offset : Nat) : ExceptT Fault Option Nat := do
  let next ← unsigned64 (offset + 1)
  let unaligned ← unsigned64 (4 - next % 4)
  return unaligned % 4

def switchLength64 (offset padding header caseSize : Nat) (cases : Int) :
    ExceptT Fault Option Nat :=
  if cases < 0 then throw (.negativeSwitch offset)
  else do
    let padded ← unsigned64 (1 + padding)
    let before ← unsigned64 (padded + header)
    let size ← unsigned64 (cases * caseSize)
    unsigned64 (before + size)

/-- The length of the instruction at `offset` as it is computed with 64 bits: every sum, difference
and product is a number of 64 bits, or there is no result. -/
def length64 (code : List UInt8) (offset : Nat) (opcode : UInt8) : ExceptT Fault Option Nat :=
  match Opcode.shape opcode with
  | .fixed length => pure length
  | .wide => do
      let place ← unsigned64 (offset + 1)
      match code[place]? with
      | some widened => pure (if widened == Opcode.iinc then 6 else 4)
      | none => throw (.truncatedWide offset)
  | .tableSwitch => do
      let padding ← padding64 offset
      let start ← unsigned64 (offset + 1 + padding)
      let low ← word64 code start 4
      let high ← word64 code start 8
      let span ← signed64 (high - low)
      switchLength64 offset padding 12 4 (← signed64 (span + 1))
  | .lookupSwitch => do
      let padding ← padding64 offset
      let start ← unsigned64 (offset + 1 + padding)
      let count ← word64 code start 4
      switchLength64 offset padding 8 8 count
  | .undefined => throw (.unsupportedOpcode opcode)

theorem unsigned64_eq {value : Int} (result : Nat) (same : value = result)
    (fits : result < 18446744073709551616) : unsigned64 value = pure result := by
  subst same
  rw [unsigned64, if_pos ⟨by omega, by omega⟩, Int.toNat_natCast]

theorem signed64_eq {value : Int} (least : -9223372036854775808 ≤ value)
    (most : value < 9223372036854775808) : signed64 value = pure value :=
  if_pos ⟨least, most⟩

theorem word64_eq (code : List UInt8) {start count : Nat}
    (fits : start + count + 4 < 18446744073709551616) :
    word64 code start count = ExceptT.mk (some (word (code.drop (start + count)))) := by
  rw [word64, unsigned64_eq (start + count) (by omega) (by omega), pure_bind,
    unsigned64_eq (start + count + 4) (by omega) fits, pure_bind]

theorem padding64_eq {offset : Nat} (fits : offset + 1 < 18446744073709551616) :
    padding64 offset = pure (padding offset) := by
  rw [padding64, unsigned64_eq (offset + 1) (by omega) fits, pure_bind,
    unsigned64_eq (4 - (offset + 1) % 4) (by omega) (by omega), pure_bind, padding]

/-- An operand of four bytes is a number of 32 bits. -/
theorem bounds_of_word {bytes : List UInt8} {value : Int} (read : word bytes = .ok value) :
    -2147483648 ≤ value ∧ value < 2147483648 := by
  unfold word at read
  split at read
  · cases read
    exact ⟨Int32.le_toInt _, Int32.toInt_lt _⟩
  · cases read

theorem switchLength64_eq {offset header caseSize : Nat} {cases : Int}
    (low : header ≤ 12) (small : caseSize ≤ 8) (few : cases ≤ 4294967296) :
    switchLength64 offset (padding offset) header caseSize cases =
      ExceptT.mk (some (switchLength offset header caseSize cases)) := by
  rw [switchLength64, switchLength]
  split
  · rfl
  · have short := padding_lt offset
    have product : cases.toNat * caseSize ≤ 4294967296 * 8 :=
      Nat.mul_le_mul (by omega) small
    have same : cases * caseSize = ((cases.toNat * caseSize : Nat) : Int) := by
      rw [Int.natCast_mul, Int.toNat_of_nonneg (by omega)]
    rw [unsigned64_eq (1 + padding offset) (by omega) (by omega), pure_bind,
      unsigned64_eq (1 + padding offset + header) (by omega) (by omega), pure_bind,
      unsigned64_eq _ same (by omega), pure_bind,
      unsigned64_eq (1 + padding offset + header + cases.toNat * caseSize) (by omega) (by omega)]
    rfl

/-- What follows an operand that was read is computed with 64 bits like before it. -/
theorem bind_answered {α β : Type} {result : Except Fault α}
    {next : α → ExceptT Fault Option β} {following : α → Except Fault β}
    (same : ∀ value, result = .ok value → next value = ExceptT.mk (some (following value))) :
    (ExceptT.mk (some result) >>= next) = ExceptT.mk (some (result >>= following)) := by
  cases result with
  | error fault => rfl
  | ok value => exact same value rfl

/-- No number that the length of an instruction is computed with needs more than 64 bits. -/
theorem length64_eq {code operands : List UInt8} {offset : Nat} {opcode : UInt8}
    (stands : code.drop offset = opcode :: operands)
    (short : code.length < 9223372036854775808) :
    length64 code offset opcode = ExceptT.mk (some (length offset opcode operands)) := by
  have before := congrArg List.length stands
  rw [List.length_drop, List.length_cons] at before
  have pad := padding_lt offset
  have operandAt (count : Nat) :
      code.drop (offset + 1 + padding offset + count) =
        (operands.drop (padding offset)).drop count := by
    rw [← List.drop_drop, ← List.drop_drop, drop_succ_of_stands stands]
  unfold length64 length
  cases shape : Opcode.shape opcode with
  | fixed count => rfl
  | wide =>
      simp only
      rw [unsigned64_eq (offset + 1) (by omega) (by omega), pure_bind,
        getElem?_succ_of_stands stands]
      cases operands <;> rfl
  | tableSwitch =>
      simp only [tableCases, bind_assoc, pure_eq_ok, ok_bind]
      rw [padding64_eq (by omega), pure_bind,
        unsigned64_eq (offset + 1 + padding offset) (by omega) (by omega), pure_bind,
        word64_eq code (by omega), operandAt]
      refine bind_answered fun low lowest => ?_
      rw [word64_eq code (by omega), operandAt]
      refine bind_answered fun high highest => ?_
      have lows := bounds_of_word lowest
      have highs := bounds_of_word highest
      rw [signed64_eq (by omega) (by omega), pure_bind, signed64_eq (by omega) (by omega),
        pure_bind]
      exact switchLength64_eq (by omega) (by omega) (by omega)
  | lookupSwitch =>
      simp only [lookupCases]
      rw [padding64_eq (by omega), pure_bind,
        unsigned64_eq (offset + 1 + padding offset) (by omega) (by omega), pure_bind,
        word64_eq code (by omega), operandAt]
      refine bind_answered fun count counted => ?_
      have counts := bounds_of_word counted
      exact switchLength64_eq (by omega) (by omega) (by omega)
  | undefined => rfl

/-! ## Jumps -/

theorem length_words {stride count : Nat} {bytes : List UInt8} {values : List Int}
    (read : words stride count bytes = .ok values) : values.length = count := by
  induction count generalizing bytes values with
  | zero =>
      cases read
      rfl
  | succ count ih =>
      obtain ⟨first, -, read⟩ := bind_eq_ok_iff.mp read
      obtain ⟨others, following, read⟩ := bind_eq_ok_iff.mp read
      cases read
      rw [List.length_cons, ih following]

section Instruction

variable {code operands : List UInt8} {offset size : Nat} {opcode : UInt8} {distances : List Int}

/-- A switch holds one jump for each case that its length has room for, and the default. -/
theorem length_jumps_switch {counting : Except Fault Int} {header caseSize : Nat}
    {front cases : List UInt8}
    (measured : (counting >>= switchLength offset header caseSize) = .ok size)
    (held : (do
      let default ← word front
      let count ← counting
      return default :: (← words caseSize count.toNat cases)) = .ok distances) :
    ∃ count : Nat, counting = .ok (count : Int) ∧
      size = 1 + padding offset + header + count * caseSize ∧ distances.length = 1 + count := by
  obtain ⟨count, rfl, measured⟩ := bind_eq_ok_iff.mp measured
  obtain ⟨positive, rfl⟩ := size_of_switchLength measured
  obtain ⟨default, -, held⟩ := bind_eq_ok_iff.mp held
  rw [ok_bind] at held
  obtain ⟨others, read, held⟩ := bind_eq_ok_iff.mp held
  cases held
  refine ⟨count.toNat, by rw [Int.toNat_of_nonneg positive], rfl, ?_⟩
  rw [List.length_cons, length_words read, Nat.add_comm]

/-- No operand of a jump is missing, and its distance has 32 bits. -/
theorem exists_jumps (measured : length offset opcode operands = .ok size)
    (long : size ≤ operands.length + 1) :
    ∃ distances, jumps offset opcode operands = .ok distances ∧
      ∀ distance ∈ distances, distance < 2147483648 := by
  obtain ⟨form, rest, complete, rfl, rfl⟩ := exists_form measured long
  exact ⟨form.distances, complete.jumps_eq rest, fun _ held => distance_lt held⟩

theorem landing_eq_error_iff {distance : Int} (near : (offset : Int) + distance < offsetLimit)
    (fault : Fault) :
    landing offset distance = .error fault ↔
      fault = .jumpBeforeStart offset ∧ (offset : Int) + distance < 0 := by
  unfold landing
  dsimp only
  split
  · simp only [Except.error.injEq, *, and_true, eq_comm]
  · simp only [reduceCtorEq, false_iff]
    omega

/-- In a body of fewer than 2147483648 bytes, a jump fails only when it leads before the start. -/
theorem destinations_eq_error_iff (held : jumps offset opcode operands = .ok distances)
    (bounded : ∀ distance ∈ distances, distance < 2147483648) (small : offset < 2147483648)
    (fault : Fault) :
    destinations offset size opcode operands = .error fault ↔
      fault = .jumpBeforeStart offset ∧ ∃ distance ∈ distances, (offset : Int) + distance < 0 := by
  have limit : offsetLimit = 4294967296 := rfl
  rw [← mapM_eq_error_iff (fun distance member => landing_eq_error_iff
    (by have := bounded distance member; omega)), destinations, held, ok_bind]
  cases distances.mapM (landing offset) with
  | error other => exact Iff.rfl
  | ok targets => simp

/-! ## Bytes elsewhere -/

/-- Bytes before and behind an instruction make no difference to it. -/
theorem same_of_own_bytes (symbols : Symbols) (stands : code.drop offset = opcode :: operands)
    (measured : length offset opcode operands = .ok size) {other : List UInt8}
    (agree : ∀ place, offset ≤ place → place < offset + size → other[place]? = code[place]?) :
    ∃ operands', other.drop offset = opcode :: operands' ∧
      length offset opcode operands' = .ok size ∧
      effect symbols offset opcode operands' = effect symbols offset opcode operands ∧
      destinations offset size opcode operands' = destinations offset size opcode operands := by
  have unchanged {α : Type} {inspection : Inspection α}
      (stays : Stays code offset (offset + size) inspection) :
      inspection.run other = inspection.run code :=
    run_congr fun place member => agree place (stays place member).1 (stays place member).2
  have first : other[offset]? = some opcode := by
    rw [agree offset (Nat.le_refl _) (Nat.lt_add_of_pos_right (size_pos measured)),
      ← Nat.add_zero offset, getElem?_add, stands, List.getElem?_cons_zero]
  obtain ⟨inside, rfl⟩ := List.getElem?_eq_some_iff.mp first
  have stands' := List.drop_eq_getElem_cons inside
  refine ⟨_, stands', ?_, ?_, ?_⟩
  · rw [← run_lengthAt stands', unchanged (stays_lengthAt stands measured), run_lengthAt stands,
      measured]
  · rw [← run_effectAt symbols stands', unchanged (stays_effectAt symbols stands measured),
      run_effectAt symbols stands]
  · rw [destinations, destinations, ← run_jumpsAt stands',
      unchanged (stays_jumpsAt stands measured), run_jumpsAt stands]

/-- An instruction that can be measured, and whose bytes stand in the body, is decoded from these
bytes. All that is looked at for its effect and its jumps lies in it, so that only a look-up in the
constant pool makes the effect fail, and only a jump before the start the destinations. A switch has
one jump for each case that its length was computed from, and the default. The length is computed
without a number that needs more than 64 bits. In every body that has the same bytes there, whatever
stands before and behind them, the instruction is the same. -/
theorem decoded_from_own_bytes (symbols : Symbols)
    (stands : code.drop offset = opcode :: operands)
    (measured : length offset opcode operands = .ok size) (fits : offset + size ≤ code.length) :
    ((effectAt symbols offset).run code = effect symbols offset opcode operands ∧
      (jumpsAt offset).run code = jumps offset opcode operands ∧
      ∀ place ∈ (effectAt symbols offset).places code ++ (jumpsAt offset).places code,
        offset ≤ place ∧ place < offset + size) ∧
    (∀ fault, effect symbols offset opcode operands = .error fault →
      LookupFault symbols offset fault) ∧
    (∃ distances, jumps offset opcode operands = .ok distances ∧
      (opcode = Opcode.tableswitch →
        ∃ cases : Nat, tableCases (operands.drop (padding offset)) = .ok (cases : Int) ∧
          size = 1 + padding offset + 12 + cases * 4 ∧ distances.length = 1 + cases) ∧
      (opcode = Opcode.lookupswitch →
        ∃ cases : Nat, lookupCases (operands.drop (padding offset)) = .ok (cases : Int) ∧
          size = 1 + padding offset + 8 + cases * 8 ∧ distances.length = 1 + cases) ∧
      (code.length < 2147483648 →
        ∀ fault, destinations offset size opcode operands = .error fault ↔
          fault = .jumpBeforeStart offset ∧
            ∃ distance ∈ distances, (offset : Int) + distance < 0)) ∧
    (code.length < 9223372036854775808 →
      length64 code offset opcode = ExceptT.mk (some (.ok size))) ∧
    ∀ other : List UInt8,
      (∀ place, offset ≤ place → place < offset + size → other[place]? = code[place]?) →
      ∃ operands', other.drop offset = opcode :: operands' ∧
        length offset opcode operands' = .ok size ∧
        effect symbols offset opcode operands' = effect symbols offset opcode operands ∧
        destinations offset size opcode operands' = destinations offset size opcode operands := by
  have effectStays := stays_effectAt symbols stands measured
  have jumpsStay := stays_jumpsAt stands measured
  have counted := congrArg List.length stands
  rw [List.length_drop, List.length_cons] at counted
  refine ⟨⟨run_effectAt symbols stands, run_jumpsAt stands, ?_⟩, ?_, ?_, ?_, ?_⟩
  · intro place member
    rcases List.mem_append.mp member with inEffect | inJumps
    · exact effectStays place inEffect
    · exact jumpsStay place inJumps
  · intro fault failed
    refine (raisesOnly_effectAt symbols offset).of_run (fun place member => ?_)
      ((run_effectAt symbols stands).trans failed)
    exact Nat.lt_of_lt_of_le (effectStays place member).2 fits
  · obtain ⟨distances, held, bounded⟩ := exists_jumps measured (by omega)
    refine ⟨distances, held, ?_, ?_, ?_⟩
    · rintro rfl
      exact length_jumps_switch measured ((jumps_tableSwitch offset operands).symm.trans held)
    · rintro rfl
      exact length_jumps_switch measured ((jumps_lookupSwitch offset operands).symm.trans held)
    · exact fun small => destinations_eq_error_iff held bounded (by omega)
  · intro short
    rw [length64_eq stands short, measured]
  · exact fun other => same_of_own_bytes symbols stands measured

/-- A switch at an offset with two bytes of padding. It has two cases, and the second one jumps to
before the start. It does so as well when another byte stands before it and none behind it. -/
theorem decoded_from_own_bytes_switch :
    let operands : List UInt8 := [0, 0, 0, 0, 0, 23, 0, 0, 0, 5, 0, 0, 0, 6, 0, 0, 0, 23,
      0xff, 0xff, 0xff, 0xfe]
    let code := 0x00 :: 0xaa :: operands ++ [0xb1]
    let symbols : Symbols := ⟨fun index => .error (.notMethodReference index), fun _ => .ok none⟩
    length 1 0xaa (operands ++ [0xb1]) = .ok 23 ∧
    (∀ place ∈ (effectAt symbols 1).places code ++ (jumpsAt 1).places code,
      1 ≤ place ∧ place < 24) ∧
    length64 code 1 0xaa = ExceptT.mk (some (.ok 23)) ∧
    destinations 1 23 0xaa (operands ++ [0xb1]) = .error (.jumpBeforeStart 1) ∧
    destinations 1 23 0xaa operands = .error (.jumpBeforeStart 1) := by
  intro operands code symbols
  have measured : length 1 0xaa (operands ++ [0xb1]) = .ok 23 := rfl
  obtain ⟨⟨-, -, own⟩, -, ⟨distances, held, -, -, fails⟩, computed, same⟩ :=
    decoded_from_own_bytes symbols (rfl : code.drop 1 = 0xaa :: (operands ++ [0xb1])) measured
      (by decide)
  have backward : destinations 1 23 0xaa (operands ++ [0xb1]) = .error (.jumpBeforeStart 1) := by
    have read : jumps 1 0xaa (operands ++ [0xb1]) = .ok [23, 23, -2] := rfl
    obtain rfl := Except.ok.inj (read.symm.trans held)
    exact (fails (by decide) _).mpr ⟨rfl, -2, by decide, by decide⟩
  refine ⟨measured, own, computed (by decide), backward, ?_⟩
  have agree : ∀ place < 24, 1 ≤ place → (0xb1 :: 0xaa :: operands)[place]? = code[place]? := by
    decide
  obtain ⟨operands', stands, -, -, destined⟩ :=
    same (0xb1 :: 0xaa :: operands) fun place least most => agree place most least
  obtain rfl := (List.cons.inj stands).2
  exact destined.trans backward

end Instruction

end GrantSurvey.ClassFile.Bytecode
