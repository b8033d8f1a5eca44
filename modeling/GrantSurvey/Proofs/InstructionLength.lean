import GrantSurvey.Proofs.InstructionForm
import GrantSurvey.Proofs.Outcome

/-!
# Measuring one instruction

The decoder measures exactly the complete forms. Bytes that start with a complete form are given
its size, and bytes that the decoder can measure, and of which none is missing, start with a
complete form.
-/

namespace GrantSurvey.ClassFile.Bytecode

open Outcome

/-! ## Opcodes -/

/-- A property of opcodes holds if it does for each of the 256 numbers. -/
theorem forall_opcode {p : UInt8 → Prop} (checked : ∀ number : Fin 256, p (UInt8.ofFin number))
    (opcode : UInt8) : p opcode :=
  checked opcode.toFin

/-- The decoder's opcode table against the chart, for each of the 256 opcodes. -/
theorem shape_charted : ∀ opcode : UInt8,
    lengthChart[opcode.toNat]? =
        some (match Opcode.shape opcode with | .fixed length => length | _ => 0) ∧
      Opcode.shape opcode ≠ .fixed 0 ∧
      (Opcode.shape opcode = .tableSwitch ↔ opcode = 0xaa) ∧
      (Opcode.shape opcode = .lookupSwitch ↔ opcode = 0xab) ∧
      (Opcode.shape opcode = .wide ↔ opcode = 0xc4) :=
  forall_opcode (by decide +kernel)

theorem shape_eq_fixed_iff (opcode : UInt8) (count : Nat) :
    Opcode.shape opcode = .fixed (count + 1) ↔ lengthChart[opcode.toNat]? = some (count + 1) := by
  rw [(shape_charted opcode).1]
  cases Opcode.shape opcode <;> simp

theorem shape_ne_fixed_zero (opcode : UInt8) : Opcode.shape opcode ≠ .fixed 0 :=
  (shape_charted opcode).2.1

theorem shape_eq_tableSwitch_iff (opcode : UInt8) :
    Opcode.shape opcode = .tableSwitch ↔ opcode = 0xaa :=
  (shape_charted opcode).2.2.1

theorem shape_eq_lookupSwitch_iff (opcode : UInt8) :
    Opcode.shape opcode = .lookupSwitch ↔ opcode = 0xab :=
  (shape_charted opcode).2.2.2.1

theorem shape_eq_wide_iff (opcode : UInt8) : Opcode.shape opcode = .wide ↔ opcode = 0xc4 :=
  (shape_charted opcode).2.2.2.2

/-! ## Words -/

theorem word_wordBytes (value : Int32) (rest : List UInt8) :
    word (Form.wordBytes value ++ rest) = .ok value.toInt := by
  obtain ⟨a, b, c, d, written, read⟩ := BigEndian.exists_bytes4 value.toUInt32
  rw [Form.wordBytes, written]
  simp only [List.cons_append, List.nil_append, word, read, Int32.toInt32_toUInt32]

@[simp]
theorem length_wordBytes (value : Int32) : (Form.wordBytes value).length = 4 := rfl

@[simp]
theorem length_pairBytes (pair : Int32 × Int32) : (Form.pairBytes pair).length = 8 := rfl

theorem length_flatMap_wordBytes (values : List Int32) :
    (values.flatMap Form.wordBytes).length = values.length * 4 := by
  induction values with
  | nil => rfl
  | cons value values ih => simp only [List.flatMap_cons, List.length_append, ih,
      length_wordBytes, List.length_cons]; omega

theorem length_flatMap_pairBytes (pairs : List (Int32 × Int32)) :
    (pairs.flatMap Form.pairBytes).length = pairs.length * 8 := by
  induction pairs with
  | nil => rfl
  | cons pair pairs ih => simp only [List.flatMap_cons, List.length_append, ih,
      length_pairBytes, List.length_cons]; omega

/-- Skipping a word that stands in front. -/
theorem drop_wordBytes (value : Int32) (count : Nat) (rest : List UInt8) :
    (Form.wordBytes value ++ rest).drop (count + 4) = rest.drop count := by
  rw [Nat.add_comm, ← length_wordBytes value, List.drop_length_add_append]

theorem exists_word {bytes : List UInt8} (long : 4 ≤ bytes.length) :
    ∃ value rest, bytes = Form.wordBytes value ++ rest := by
  match bytes, long with
  | a :: b :: c :: d :: rest, _ =>
      refine ⟨(BigEndian.u4 a b c d).toInt32, rest, ?_⟩
      rw [Form.wordBytes, UInt32.toUInt32_toInt32, BigEndian.bytes4_u4]
      rfl

theorem exists_words {bytes : List UInt8} (count : Nat) (long : count * 4 ≤ bytes.length) :
    ∃ (values : List Int32) (rest : List UInt8),
      values.length = count ∧ bytes = values.flatMap Form.wordBytes ++ rest := by
  induction count generalizing bytes with
  | zero => exact ⟨[], bytes, rfl, rfl⟩
  | succ count ih =>
      obtain ⟨value, more, rfl⟩ := exists_word (by omega : 4 ≤ bytes.length)
      have longEnough : count * 4 ≤ more.length := by
        simp only [List.length_append, length_wordBytes] at long
        omega
      obtain ⟨values, rest, counted, rfl⟩ := ih longEnough
      exact ⟨value :: values, rest, by simp [counted], by simp⟩

theorem exists_pairs {bytes : List UInt8} (count : Nat) (long : count * 8 ≤ bytes.length) :
    ∃ (pairs : List (Int32 × Int32)) (rest : List UInt8),
      pairs.length = count ∧ bytes = pairs.flatMap Form.pairBytes ++ rest := by
  induction count generalizing bytes with
  | zero => exact ⟨[], bytes, rfl, rfl⟩
  | succ count ih =>
      obtain ⟨first, more, rfl⟩ := exists_word (by omega : 4 ≤ bytes.length)
      simp only [List.length_append, length_wordBytes] at long
      obtain ⟨second, more, rfl⟩ := exists_word (by omega : 4 ≤ more.length)
      have longEnough : count * 8 ≤ more.length := by
        simp only [List.length_append, length_wordBytes] at long
        omega
      obtain ⟨pairs, rest, counted, rfl⟩ := ih longEnough
      exact ⟨(first, second) :: pairs, rest, by simp [counted], by simp [Form.pairBytes]⟩

theorem words_flatMap_wordBytes (values : List Int32) (rest : List UInt8) :
    words 4 values.length (values.flatMap Form.wordBytes ++ rest) =
      .ok (values.map (·.toInt)) := by
  induction values with
  | nil => rfl
  | cons value values ih =>
      simp only [List.length_cons, words, List.flatMap_cons, List.append_assoc, word_wordBytes,
        ok_bind, drop_wordBytes value 0, List.drop_zero, ih, pure_eq_ok, List.map_cons]

/-- Of each pair the second number is read, so reading starts one word into the first pair. -/
theorem words_flatMap_pairBytes (pairs : List (Int32 × Int32)) (rest : List UInt8) :
    words 8 pairs.length ((pairs.flatMap Form.pairBytes ++ rest).drop 4) =
      .ok (pairs.map (·.2.toInt)) := by
  induction pairs with
  | nil => rfl
  | cons pair pairs ih =>
      simp only [List.length_cons, words, List.flatMap_cons, List.append_assoc, Form.pairBytes,
        drop_wordBytes _ 0, List.drop_zero, word_wordBytes, ok_bind, drop_wordBytes _ 4, ih,
        pure_eq_ok, List.map_cons]

/-! ## Lengths -/

/-- The padding is the one number below four that leads to a multiple of four. -/
theorem padding_eq {offset count : Nat} (short : count < 4) (aligned : 4 ∣ offset + 1 + count) :
    padding offset = count := by
  unfold padding
  omega

theorem padding_lt (offset : Nat) : padding offset < 4 := by
  unfold padding
  omega

theorem dvd_padding (offset : Nat) : 4 ∣ offset + 1 + padding offset := by
  unfold padding
  omega

/-- The bytes after the padding of a switch. -/
theorem drop_padding {offset : Nat} {padding : List UInt8} (short : padding.length < 4)
    (aligned : 4 ∣ offset + 1 + padding.length) (rest : List UInt8) :
    (padding ++ rest).drop (Bytecode.padding offset) = rest := by
  rw [padding_eq short aligned, List.drop_left]

theorem tableCases_words (default low high : Int32) (rest : List UInt8) :
    tableCases (Form.wordBytes default ++ (Form.wordBytes low ++ (Form.wordBytes high ++ rest))) =
      .ok (high.toInt - low.toInt + 1) := by
  simp only [tableCases, drop_wordBytes _ 0, drop_wordBytes _ 4, List.drop_zero, word_wordBytes,
    ok_bind, pure_eq_ok]

theorem lookupCases_words (default count : Int32) (rest : List UInt8) :
    lookupCases (Form.wordBytes default ++ (Form.wordBytes count ++ rest)) = .ok count.toInt := by
  simp only [lookupCases, drop_wordBytes _ 0, List.drop_zero, word_wordBytes]

theorem switchLength_natCast (offset header caseSize count : Nat) :
    switchLength offset header caseSize count =
      .ok (1 + padding offset + header + count * caseSize) := by
  rw [switchLength, if_neg (by omega), Int.toNat_natCast]

/-- The decoder gives a complete form its own size, whatever follows it. -/
theorem Form.Complete.length_eq {offset : Nat} {form : Form} (complete : form.Complete offset)
    (rest : List UInt8) :
    length offset form.opcode (form.operands ++ rest) = .ok form.size := by
  cases complete with
  | fixed charted =>
      simp only [length, Form.opcode, (shape_eq_fixed_iff _ _).mpr charted, Form.size, Form.bytes,
        Form.operands, List.length_cons]
  | wideIncrement count =>
      simp only [length, Form.opcode, (shape_eq_wide_iff 0xc4).mpr rfl, Form.operands,
        List.cons_append, Form.size, Form.bytes, List.length_cons, count]
      rfl
  | wide other count =>
      simp only [length, Form.opcode, (shape_eq_wide_iff 0xc4).mpr rfl, Form.operands,
        List.cons_append, Form.size, Form.bytes, List.length_cons, count]
      rw [if_neg (by simpa [Opcode.iinc] using other)]
  | tableSwitch short aligned counted =>
      simp only [length, Form.opcode, (shape_eq_tableSwitch_iff 0xaa).mpr rfl, Form.operands,
        List.append_assoc, drop_padding short aligned, tableCases_words, ok_bind, ← counted,
        switchLength_natCast, Form.size, Form.bytes, List.length_cons, List.length_append,
        length_wordBytes, length_flatMap_wordBytes, Except.ok.injEq]
      rw [padding_eq short aligned]
      omega
  | lookupSwitch short aligned counted =>
      simp only [length, Form.opcode, (shape_eq_lookupSwitch_iff 0xab).mpr rfl, Form.operands,
        List.append_assoc, drop_padding short aligned, lookupCases_words, ok_bind, ← counted,
        switchLength_natCast, Form.size, Form.bytes, List.length_cons, List.length_append,
        length_wordBytes, length_flatMap_pairBytes, Except.ok.injEq]
      rw [padding_eq short aligned]
      omega

/-- What follows the opcode of a switch starts with its padding. -/
theorem exists_padding {offset count : Nat} {operands : List UInt8}
    (long : padding offset + count ≤ operands.length) :
    ∃ front rest, operands = front ++ rest ∧ front.length < 4 ∧ 4 ∣ offset + 1 + front.length ∧
      count ≤ rest.length := by
  have exact : (operands.take (padding offset)).length = padding offset := by
    rw [List.length_take]
    omega
  refine ⟨operands.take (padding offset), operands.drop (padding offset),
    (List.take_append_drop _ _).symm, ?_, ?_, ?_⟩
  · rw [exact]
    exact padding_lt offset
  · rw [exact]
    exact dvd_padding offset
  · rw [List.length_drop]
    omega

theorem exists_tableSwitch {offset size : Nat} {operands : List UInt8}
    (measured : length offset 0xaa operands = .ok size) (long : size ≤ operands.length + 1) :
    ∃ (form : Form) (rest : List UInt8),
      form.Complete offset ∧ form.opcode = 0xaa ∧ operands = form.operands ++ rest := by
  simp only [length, (shape_eq_tableSwitch_iff 0xaa).mpr rfl, bind_eq_ok_iff] at measured
  obtain ⟨cases, counted, measured⟩ := measured
  rw [switchLength] at measured
  split at measured
  · cases measured
  rename_i nonnegative
  obtain ⟨count, rfl⟩ := Int.eq_ofNat_of_zero_le (Int.not_lt.mp nonnegative)
  simp only [Int.toNat_natCast, Except.ok.injEq] at measured
  obtain ⟨front, more, rfl, short, aligned, longEnough⟩ :=
    exists_padding (by omega : padding offset + (count + 3) * 4 ≤ operands.length)
  obtain ⟨values, rest, valuesCounted, rfl⟩ := exists_words (count + 3) longEnough
  match values, valuesCounted with
  | default :: low :: high :: targets, valuesCounted =>
      simp only [List.flatMap_cons, List.append_assoc, drop_padding short aligned,
        tableCases_words, Except.ok.injEq] at counted
      simp only [List.length_cons, Nat.add_right_cancel_iff] at valuesCounted
      refine ⟨.tableSwitch front default low high targets, rest, ?_, rfl, ?_⟩
      · exact .tableSwitch short aligned (by rw [valuesCounted, counted])
      · simp only [Form.operands, List.flatMap_cons, List.append_assoc]

theorem exists_lookupSwitch {offset size : Nat} {operands : List UInt8}
    (measured : length offset 0xab operands = .ok size) (long : size ≤ operands.length + 1) :
    ∃ (form : Form) (rest : List UInt8),
      form.Complete offset ∧ form.opcode = 0xab ∧ operands = form.operands ++ rest := by
  simp only [length, (shape_eq_lookupSwitch_iff 0xab).mpr rfl, bind_eq_ok_iff] at measured
  obtain ⟨cases, counted, measured⟩ := measured
  rw [switchLength] at measured
  split at measured
  · cases measured
  rename_i nonnegative
  obtain ⟨count, rfl⟩ := Int.eq_ofNat_of_zero_le (Int.not_lt.mp nonnegative)
  simp only [Int.toNat_natCast, Except.ok.injEq] at measured
  obtain ⟨front, more, rfl, short, aligned, longEnough⟩ :=
    exists_padding (by omega : padding offset + (count + 1) * 8 ≤ operands.length)
  obtain ⟨pairs, rest, pairsCounted, rfl⟩ := exists_pairs (count + 1) longEnough
  match pairs, pairsCounted with
  | (default, number) :: pairs, pairsCounted =>
      simp only [List.flatMap_cons, List.append_assoc, Form.pairBytes, drop_padding short aligned,
        lookupCases_words, Except.ok.injEq] at counted
      simp only [List.length_cons, Nat.add_right_cancel_iff] at pairsCounted
      refine ⟨.lookupSwitch front default number pairs, rest, ?_, rfl, ?_⟩
      · exact .lookupSwitch short aligned (by rw [pairsCounted, counted])
      · simp only [Form.operands, List.flatMap_cons, List.append_assoc, Form.pairBytes]

theorem exists_wide {offset size : Nat} {operands : List UInt8}
    (measured : length offset 0xc4 operands = .ok size) (long : size ≤ operands.length + 1) :
    ∃ (form : Form) (rest : List UInt8),
      form.Complete offset ∧ form.opcode = 0xc4 ∧ operands = form.operands ++ rest := by
  simp only [length, (shape_eq_wide_iff 0xc4).mpr rfl] at measured
  cases operands with
  | nil => cases measured
  | cons opcode operands =>
      simp only [Except.ok.injEq] at measured
      simp only [List.length_cons] at long
      by_cases increment : opcode = 0x84
      · subst increment
        have six : 6 = size := measured
        refine ⟨.wide 0x84 (operands.take 4), operands.drop 4, .wideIncrement ?_, rfl, ?_⟩
        · rw [List.length_take]
          omega
        · simp only [Form.operands, List.cons_append, List.take_append_drop]
      · rw [if_neg (by simpa [Opcode.iinc] using increment)] at measured
        refine ⟨.wide opcode (operands.take 2), operands.drop 2, .wide increment ?_, rfl, ?_⟩
        · rw [List.length_take]
          omega
        · simp only [Form.operands, List.cons_append, List.take_append_drop]

/-- Whatever the decoder can measure, and of which no byte is missing, is a complete form. -/
theorem exists_form {offset size : Nat} {opcode : UInt8} {operands : List UInt8}
    (measured : length offset opcode operands = .ok size) (long : size ≤ operands.length + 1) :
    ∃ (form : Form) (rest : List UInt8),
      form.Complete offset ∧ form.opcode = opcode ∧ operands = form.operands ++ rest := by
  cases shape : Opcode.shape opcode with
  | fixed count =>
      simp only [length, shape, Except.ok.injEq] at measured
      obtain ⟨count, rfl⟩ : ∃ before, count = before + 1 := by
        cases count with
        | zero => exact absurd shape (shape_ne_fixed_zero opcode)
        | succ before => exact ⟨before, rfl⟩
      refine ⟨.fixed opcode (operands.take count), operands.drop count, .fixed ?_, rfl, ?_⟩
      · rw [List.length_take, Nat.min_eq_left (by omega)]
        exact (shape_eq_fixed_iff _ _).mp shape
      · exact (List.take_append_drop _ _).symm
  | tableSwitch =>
      obtain rfl := (shape_eq_tableSwitch_iff opcode).mp shape
      exact exists_tableSwitch measured long
  | lookupSwitch =>
      obtain rfl := (shape_eq_lookupSwitch_iff opcode).mp shape
      exact exists_lookupSwitch measured long
  | wide =>
      obtain rfl := (shape_eq_wide_iff opcode).mp shape
      exact exists_wide measured long
  | undefined => simp only [length, shape, reduceCtorEq] at measured

end GrantSurvey.ClassFile.Bytecode
