import GrantSurvey.Proofs.InstructionLength

/-!
# Reading one instruction

What the decoder finds at the start of some bytes is what the complete form there says: the
distances are those that the form holds, and the effect is the one that the form denotes.
-/

namespace GrantSurvey.ClassFile.Bytecode

open Outcome

/-- The decoder's tests of an opcode against the lists of opcodes, for each of the 256 opcodes. -/
theorem tests_listed : ∀ opcode : UInt8,
    Opcode.jumpsNear opcode = Form.isNearJump opcode ∧
      Opcode.jumpsFar opcode = Form.isFarJump opcode ∧
      (Opcode.between Opcode.iconstM1 Opcode.iconst5 opcode = true ↔
        opcode ∈ Form.smallOpcodes) ∧
      (Opcode.pushesOne opcode = true ↔ opcode ∈ Form.pushOpcodes) ∧
      (Opcode.between Opcode.iload Opcode.aload opcode = true ↔
        opcode ∈ [0x15, 0x16, 0x17, 0x18, 0x19]) ∧
      (Form.isNearJump opcode = true → lengthChart[opcode.toNat]? = some 3) ∧
      (Form.isFarJump opcode = true →
        Form.isNearJump opcode = false ∧ lengthChart[opcode.toNat]? = some 5) ∧
      (opcode ∈ Form.smallOpcodes → lengthChart[opcode.toNat]? = some 1) ∧
      (opcode ∈ Form.pushOpcodes → callKind? opcode = none ∧ opcode ∉ Form.smallOpcodes ∧
        opcode ∉ Form.operandOpcodes ∧ opcode ≠ 0xc4) :=
  forall_opcode (by decide +kernel)

/-! ## Jumps -/

theorem jumpsNear_eq (opcode : UInt8) : Opcode.jumpsNear opcode = Form.isNearJump opcode :=
  (tests_listed opcode).1

theorem jumpsFar_eq (opcode : UInt8) : Opcode.jumpsFar opcode = Form.isFarJump opcode :=
  (tests_listed opcode).2.1

theorem chart_of_isNearJump (opcode : UInt8) (near : Form.isNearJump opcode = true) :
    lengthChart[opcode.toNat]? = some 3 :=
  (tests_listed opcode).2.2.2.2.2.1 near

theorem chart_of_isFarJump (opcode : UInt8) (far : Form.isFarJump opcode = true) :
    Form.isNearJump opcode = false ∧ lengthChart[opcode.toNat]? = some 5 :=
  (tests_listed opcode).2.2.2.2.2.2.1 far

/-- Operands are as many as the chart says. -/
theorem operands_of_chart {opcode : UInt8} {operands : List UInt8} {count : Nat}
    (charted : lengthChart[opcode.toNat]? = some (operands.length + 1))
    (known : lengthChart[opcode.toNat]? = some (count + 1)) : operands.length = count := by
  rw [charted] at known
  simpa using known

theorem exists_two {operands : List UInt8} (two : operands.length = 2) :
    ∃ a b, operands = [a, b] := by
  match operands, two with
  | [a, b], _ => exact ⟨a, b, rfl⟩

theorem exists_four {operands : List UInt8} (four : operands.length = 4) :
    ∃ a b c d, operands = [a, b, c, d] := by
  match operands, four with
  | [a, b, c, d], _ => exact ⟨a, b, c, d, rfl⟩

theorem distances_of_noJump {opcode : UInt8} (operands : List UInt8)
    (notNear : Form.isNearJump opcode = false) (notFar : Form.isFarJump opcode = false) :
    (Form.fixed opcode operands).distances = [] := by
  unfold Form.distances
  split <;> simp_all

/-- An instruction of fixed length is no switch. -/
theorem ne_switch_of_chart {opcode : UInt8} {count : Nat}
    (charted : lengthChart[opcode.toNat]? = some (count + 1)) : opcode ≠ 0xaa ∧ opcode ≠ 0xab := by
  constructor
  · rintro rfl
    cases charted
  · rintro rfl
    cases charted

theorem jumps_fixed {offset : Nat} {opcode : UInt8} {operands : List UInt8}
    (charted : lengthChart[opcode.toNat]? = some (operands.length + 1)) (rest : List UInt8) :
    jumps offset opcode (operands ++ rest) = .ok (Form.fixed opcode operands).distances := by
  rw [jumps, jumpsNear_eq, jumpsFar_eq]
  cases near : Form.isNearJump opcode with
  | true =>
      obtain ⟨a, b, rfl⟩ := exists_two (operands_of_chart charted (chart_of_isNearJump opcode near))
      simp [half, Form.distances, near]
  | false =>
      cases far : Form.isFarJump opcode with
      | true =>
          obtain ⟨a, b, c, d, rfl⟩ :=
            exists_four (operands_of_chart charted (chart_of_isFarJump opcode far).2)
          simp [word, Form.distances, far]
      | false =>
          obtain ⟨notTable, notLookup⟩ := ne_switch_of_chart charted
          simp [distances_of_noJump operands near far, Opcode.tableswitch, notTable,
            Opcode.lookupswitch, notLookup]

theorem jumps_tableSwitch (offset : Nat) (operands : List UInt8) :
    jumps offset 0xaa operands = (do
      let operands := operands.drop (padding offset)
      let default ← word operands
      let cases ← tableCases operands
      return default :: (← words 4 cases.toNat (operands.drop 12))) := rfl

theorem jumps_lookupSwitch (offset : Nat) (operands : List UInt8) :
    jumps offset 0xab operands = (do
      let operands := operands.drop (padding offset)
      let default ← word operands
      let cases ← lookupCases operands
      return default :: (← words 8 cases.toNat (operands.drop 12))) := rfl

/-- The decoder finds the jumps that a complete form holds, whatever follows it. -/
theorem Form.Complete.jumps_eq {offset : Nat} {form : Form} (complete : form.Complete offset)
    (rest : List UInt8) :
    jumps offset form.opcode (form.operands ++ rest) = .ok form.distances := by
  cases complete with
  | fixed charted => exact jumps_fixed charted rest
  | wideIncrement count => rfl
  | wide other count => rfl
  | tableSwitch short aligned counted =>
      simp only [Form.opcode, jumps_tableSwitch, Form.operands, List.append_assoc,
        drop_padding short aligned, word_wordBytes, tableCases_words, ok_bind, ← counted,
        Int.toNat_natCast, drop_wordBytes _ 8, drop_wordBytes _ 4, drop_wordBytes _ 0,
        List.drop_zero, words_flatMap_wordBytes, pure_eq_ok, Form.distances]
  | lookupSwitch short aligned counted =>
      simp only [Form.opcode, jumps_lookupSwitch, Form.operands, List.append_assoc,
        drop_padding short aligned, word_wordBytes, lookupCases_words, ok_bind, ← counted,
        Int.toNat_natCast, drop_wordBytes _ 8, drop_wordBytes _ 4, words_flatMap_pairBytes,
        pure_eq_ok, Form.distances]

theorem callsSubroutine_opcode {offset : Nat} {form : Form} (complete : form.Complete offset) :
    Opcode.callsSubroutine form.opcode = form.callsSubroutine := by
  cases complete <;> rfl

/-! ## Effects -/

theorem callKind?_eq_some_iff (opcode : UInt8) (kind : CallKind) :
    callKind? opcode = some kind ↔ (opcode, kind) ∈ Form.callOpcodes := by
  simp only [callKind?, Opcode.invokevirtual, Opcode.invokespecial, Opcode.invokestatic,
    Opcode.invokeinterface, Form.callOpcodes, beq_iff_eq, List.mem_cons, Prod.mk.injEq]
  grind

theorem between_small (opcode : UInt8) :
    Opcode.between Opcode.iconstM1 Opcode.iconst5 opcode = true ↔ opcode ∈ Form.smallOpcodes :=
  (tests_listed opcode).2.2.1

theorem chart_of_small (opcode : UInt8) (listed : opcode ∈ Form.smallOpcodes) :
    lengthChart[opcode.toNat]? = some 1 :=
  (tests_listed opcode).2.2.2.2.2.2.2.1 listed

theorem pushesOne_iff (opcode : UInt8) :
    Opcode.pushesOne opcode = true ↔ opcode ∈ Form.pushOpcodes :=
  (tests_listed opcode).2.2.2.1

theorem between_loads (opcode : UInt8) :
    Opcode.between Opcode.iload Opcode.aload opcode = true ↔
      opcode ∈ [0x15, 0x16, 0x17, 0x18, 0x19] :=
  (tests_listed opcode).2.2.2.2.1

theorem effect_call (symbols : Symbols) (offset : Nat) {opcode : UInt8} {kind : CallKind}
    (calls : (opcode, kind) ∈ Form.callOpcodes) (operands : List UInt8) :
    effect symbols offset opcode operands = (do
      let index ← half operands
      let callee ← inPlace (.callAt offset) (symbols.method index)
      return .invoke kind callee) := by
  rw [effect, (callKind?_eq_some_iff opcode kind).mpr calls]

theorem effect_small (symbols : Symbols) (offset : Nat) {opcode : UInt8}
    (listed : opcode ∈ Form.smallOpcodes) (operands : List UInt8) :
    effect symbols offset opcode operands =
      .ok (.constant (.int (Int32.ofInt (opcode.toNat - 3)))) := by
  simp only [Form.smallOpcodes, List.mem_cons, List.not_mem_nil, or_false] at listed
  rcases listed with rfl | rfl | rfl | rfl | rfl | rfl | rfl <;> rfl

/-- An opcode that neither calls nor stands for a literal either pushes a value or does anything. -/
theorem effect_plain (symbols : Symbols) (offset : Nat) {opcode : UInt8}
    (noCall : callKind? opcode = none) (notSmall : opcode ∉ Form.smallOpcodes)
    (noOperand : opcode ∉ Form.operandOpcodes) (notWide : opcode ≠ 0xc4) (operands : List UInt8) :
    effect symbols offset opcode operands =
      .ok (if Opcode.pushesOne opcode then .push opcode else .other opcode) := by
  have outside : Opcode.between Opcode.iconstM1 Opcode.iconst5 opcode = false := by
    rw [← Bool.not_eq_true, between_small]
    exact notSmall
  simp only [Form.operandOpcodes, List.mem_cons, List.not_mem_nil, or_false, not_or] at noOperand
  obtain ⟨notByte, notHalf, notLdc, notLdcW, notLdc2W⟩ := noOperand
  simp only [effect, noCall, beq_iff_eq, Opcode.ldc, notLdc, Opcode.ldcW, notLdcW, Opcode.ldc2W,
    notLdc2W, outside, Opcode.bipush, notByte, Opcode.sipush, notHalf, Opcode.wide, notWide,
    if_false, Bool.false_eq_true]
  split <;> rfl

theorem plain_of_pushOpcodes (opcode : UInt8) (listed : opcode ∈ Form.pushOpcodes) :
    callKind? opcode = none ∧ opcode ∉ Form.smallOpcodes ∧ opcode ∉ Form.operandOpcodes ∧
      opcode ≠ 0xc4 :=
  (tests_listed opcode).2.2.2.2.2.2.2.2 listed

theorem effect_push (symbols : Symbols) (offset : Nat) {opcode : UInt8}
    (listed : opcode ∈ Form.pushOpcodes) (operands : List UInt8) :
    effect symbols offset opcode operands = .ok (.push opcode) := by
  obtain ⟨noCall, notSmall, noOperand, notWide⟩ := plain_of_pushOpcodes opcode listed
  rw [effect_plain symbols offset noCall notSmall noOperand notWide,
    if_pos ((pushesOne_iff opcode).mpr listed)]

theorem callKind?_eq_none {opcode : UInt8} (unlisted : opcode ∉ Form.callOpcodes.map Prod.fst) :
    callKind? opcode = none := by
  cases found : callKind? opcode with
  | none => rfl
  | some kind =>
      exact absurd (List.mem_map_of_mem ((callKind?_eq_some_iff opcode kind).mp found)) unlisted

theorem effect_other (symbols : Symbols) (offset : Nat) {opcode : UInt8}
    (unlisted : opcode ∉ Form.callOpcodes.map Prod.fst ++ Form.pushOpcodes ++ Form.smallOpcodes ++
      Form.operandOpcodes) (notWide : opcode ≠ 0xc4) (operands : List UInt8) :
    effect symbols offset opcode operands = .ok (.other opcode) := by
  simp only [List.mem_append, not_or] at unlisted
  obtain ⟨⟨⟨noCall, noPush⟩, notSmall⟩, noOperand⟩ := unlisted
  rw [effect_plain symbols offset (callKind?_eq_none noCall) notSmall noOperand notWide,
    if_neg (fun pushes => noPush ((pushesOne_iff opcode).mp pushes))]

theorem effect_wide (symbols : Symbols) (offset : Nat) (opcode : UInt8) (operands : List UInt8) :
    effect symbols offset 0xc4 (opcode :: operands) =
      .ok (if opcode ∈ [0x15, 0x16, 0x17, 0x18, 0x19] then .push 0xc4 else .other 0xc4) := by
  simp only [← between_loads opcode]
  rfl

theorem literalIndex?_narrow {opcode : UInt8} {operands : List UInt8} {index : UInt16}
    (narrow : opcode ≠ 0x14) (loads : (Form.fixed opcode operands).literalIndex? = some index) :
    (opcode = 0x12 ∧ ∃ a, operands = [a] ∧ a.toUInt16 = index) ∨
      (opcode = 0x13 ∧ ∃ a b, operands = [a, b] ∧ BigEndian.u2 a b = index) := by
  unfold Form.literalIndex? at loads
  split at loads
  · rename_i same
    cases same
    split at loads
    · exact Or.inl ⟨‹_›, _, rfl, Option.some.inj loads⟩
    · cases loads
  · rename_i same
    cases same
    split at loads
    · rename_i either
      exact Or.inr ⟨either.resolve_right narrow, _, _, rfl, Option.some.inj loads⟩
    · cases loads
  · cases loads

/-- Loading one stack slot from the constant pool. -/
theorem effect_narrow (symbols : Symbols) (offset : Nat) {opcode : UInt8} {operands : List UInt8}
    {index : UInt16} (narrow : opcode ≠ 0x14)
    (loads : (Form.fixed opcode operands).literalIndex? = some index) (rest : List UInt8) :
    effect symbols offset opcode (operands ++ rest) = (do
      return loadNarrow opcode (← symbols.literal index)) := by
  rcases literalIndex?_narrow narrow loads with ⟨rfl, a, rfl, rfl⟩ | ⟨rfl, a, b, rfl, rfl⟩
  · rfl
  · rfl

/-- Loading two stack slots from the constant pool. -/
theorem effect_long (symbols : Symbols) (offset : Nat) (a b : UInt8) (rest : List UInt8) :
    effect symbols offset 0x14 (a :: b :: rest) = (do
      return loadWide 0x14 (← symbols.literal (BigEndian.u2 a b))) := rfl

/-- The decoder finds the effect that a form denotes, whatever follows it. -/
theorem Form.Denotes.effect_eq {symbols : Symbols} {offset : Nat} {form : Form} {result : Effect}
    (denotes : form.Denotes symbols result) (complete : form.Complete offset)
    (rest : List UInt8) :
    effect symbols offset form.opcode (form.operands ++ rest) = .ok result := by
  cases denotes with
  | call calls found =>
      simp only [Form.opcode, Form.operands, effect_call symbols offset calls, List.cons_append,
        half, ok_bind, found, inPlace, pure_eq_ok]
  | literal narrow loads found fits =>
      rename_i opcode operands index value
      simp only [Form.opcode, Form.operands, effect_narrow symbols offset narrow loads, found,
        ok_bind, pure_eq_ok]
      cases value with
      | long long => exact absurd rfl (fits long)
      | text | int => rfl
  | noLiteral narrow loads found misfit =>
      rename_i opcode operands index value
      simp only [Form.opcode, Form.operands, effect_narrow symbols offset narrow loads, found,
        ok_bind, pure_eq_ok]
      cases value with
      | none => rfl
      | some value =>
          obtain ⟨long, rfl⟩ := misfit value rfl
          rfl
  | longLiteral found =>
      simp only [Form.opcode, Form.operands, List.cons_append, effect_long, found, ok_bind,
        pure_eq_ok, loadWide]
  | noLongLiteral found misfit =>
      rename_i a b value
      simp only [Form.opcode, Form.operands, List.cons_append, effect_long, found, ok_bind,
        pure_eq_ok]
      cases value with
      | none => rfl
      | some value =>
          cases value with
          | long long => exact absurd rfl (misfit long)
          | text | int => rfl
  | small listed => exact effect_small symbols offset listed _
  | signedByte =>
      rw [Int32.ofInt_int8ToInt]
      rfl
  | signedHalf =>
      rw [Int32.ofInt_int16ToInt]
      rfl
  | push listed => exact effect_push symbols offset listed _
  | other unlisted =>
      cases complete with
      | fixed charted =>
          apply effect_other symbols offset unlisted
          rintro rfl
          cases charted
  | widePush loads =>
      simp only [Form.opcode, Form.operands, List.cons_append, effect_wide, if_pos loads]
  | wideOther loadsNot =>
      simp only [Form.opcode, Form.operands, List.cons_append, effect_wide, if_neg loadsNot]
  | tableSwitch => rfl
  | lookupSwitch => rfl

theorem chart_of_call {opcode : UInt8} {kind : CallKind}
    (calls : (opcode, kind) ∈ Form.callOpcodes) :
    lengthChart[opcode.toNat]? = some 3 ∨ lengthChart[opcode.toNat]? = some 5 := by
  simp only [Form.callOpcodes, List.mem_cons, Prod.mk.injEq, List.not_mem_nil, or_false] at calls
  rcases calls with ⟨rfl, -⟩ | ⟨rfl, -⟩ | ⟨rfl, -⟩ | ⟨rfl, -⟩
  · exact Or.inl rfl
  · exact Or.inl rfl
  · exact Or.inl rfl
  · exact Or.inr rfl

/-- A call starts with the number of its callee. -/
theorem exists_calleeIndex {opcode : UInt8} {kind : CallKind} {operands : List UInt8}
    (calls : (opcode, kind) ∈ Form.callOpcodes)
    (charted : lengthChart[opcode.toNat]? = some (operands.length + 1)) :
    ∃ a b more, operands = a :: b :: more := by
  have long : 2 ≤ operands.length := by
    rcases chart_of_call calls with three | five
    · have two := operands_of_chart charted three
      omega
    · have four := operands_of_chart charted five
      omega
  match operands, long with
  | a :: b :: more, _ => exact ⟨a, b, more, rfl⟩

theorem exists_one {operands : List UInt8} (one : operands.length = 1) :
    ∃ a, operands = [a] := by
  match operands, one with
  | [a], _ => exact ⟨a, rfl⟩

/-- The kinds of instructions of fixed length: calls, loads of literals from the constant pool into
one stack slot and into two, literals in the opcode or its operands, and the rest. -/
inductive Form.Kind : UInt8 → List UInt8 → Prop where
  | call {opcode a b : UInt8} {more : List UInt8} {kind : CallKind}
      (calls : (opcode, kind) ∈ Form.callOpcodes) : Kind opcode (a :: b :: more)
  | narrow {opcode : UInt8} {operands : List UInt8} {index : UInt16} (narrow : opcode ≠ 0x14)
      (loads : (Form.fixed opcode operands).literalIndex? = some index) : Kind opcode operands
  | long {a b : UInt8} : Kind 0x14 [a, b]
  | small {opcode : UInt8} (listed : opcode ∈ Form.smallOpcodes) : Kind opcode []
  | signedByte {a : UInt8} : Kind 0x10 [a]
  | signedHalf {a b : UInt8} : Kind 0x11 [a, b]
  | push {opcode : UInt8} {operands : List UInt8} (listed : opcode ∈ Form.pushOpcodes) :
      Kind opcode operands
  | other {opcode : UInt8} {operands : List UInt8}
      (unlisted : opcode ∉ Form.callOpcodes.map Prod.fst ++ Form.pushOpcodes ++
        Form.smallOpcodes ++ Form.operandOpcodes)
      (notWide : opcode ≠ 0xc4) : Kind opcode operands

theorem kind_of_operandOpcodes {opcode : UInt8} {operands : List UInt8}
    (charted : lengthChart[opcode.toNat]? = some (operands.length + 1))
    (listed : opcode ∈ Form.operandOpcodes) : Form.Kind opcode operands := by
  simp only [Form.operandOpcodes, List.mem_cons, List.not_mem_nil, or_false] at listed
  rcases listed with rfl | rfl | rfl | rfl | rfl
  · obtain ⟨a, rfl⟩ := exists_one (operands_of_chart charted rfl)
    exact .signedByte
  · obtain ⟨a, b, rfl⟩ := exists_two (operands_of_chart charted rfl)
    exact .signedHalf
  · obtain ⟨a, rfl⟩ := exists_one (operands_of_chart charted rfl)
    exact .narrow (by decide) rfl
  · obtain ⟨a, b, rfl⟩ := exists_two (operands_of_chart charted rfl)
    exact .narrow (by decide) rfl
  · obtain ⟨a, b, rfl⟩ := exists_two (operands_of_chart charted rfl)
    exact .long

/-- Every instruction whose length is in the chart is of one of the kinds. -/
theorem kind_of_chart {opcode : UInt8} {operands : List UInt8}
    (charted : lengthChart[opcode.toNat]? = some (operands.length + 1)) :
    Form.Kind opcode operands := by
  by_cases noCall : opcode ∈ Form.callOpcodes.map Prod.fst
  · obtain ⟨⟨_, kind⟩, calls, rfl⟩ := List.mem_map.mp noCall
    obtain ⟨a, b, more, rfl⟩ := exists_calleeIndex calls charted
    exact .call calls
  by_cases noOperand : opcode ∈ Form.operandOpcodes
  · exact kind_of_operandOpcodes charted noOperand
  by_cases notSmall : opcode ∈ Form.smallOpcodes
  · have none : operands = [] := List.eq_nil_of_length_eq_zero
      (operands_of_chart charted (chart_of_small opcode notSmall))
    subst none
    exact .small notSmall
  by_cases noPush : opcode ∈ Form.pushOpcodes
  · exact .push noPush
  · refine .other ?_ ?_
    · simp only [List.mem_append, not_or]
      exact ⟨⟨⟨noCall, noPush⟩, notSmall⟩, noOperand⟩
    · rintro rfl
      cases charted

theorem denotes_loadNarrow {symbols : Symbols} {opcode : UInt8} {operands : List UInt8}
    {index : UInt16} {value : Option Literal} (narrow : opcode ≠ 0x14)
    (loads : (Form.fixed opcode operands).literalIndex? = some index)
    (found : symbols.literal index = .ok value) :
    (Form.fixed opcode operands).Denotes symbols (loadNarrow opcode value) := by
  match value, found with
  | none, found => exact .noLiteral narrow loads found (by simp)
  | some (.long long), found => exact .noLiteral narrow loads found (by simp)
  | some (.text text), found => exact .literal narrow loads found (by simp)
  | some (.int int), found => exact .literal narrow loads found (by simp)

theorem denotes_loadWide {symbols : Symbols} {a b : UInt8} {value : Option Literal}
    (found : symbols.literal (BigEndian.u2 a b) = .ok value) :
    (Form.fixed 0x14 [a, b]).Denotes symbols (loadWide 0x14 value) := by
  match value, found with
  | none, found => exact .noLongLiteral found (by simp)
  | some (.long long), found => exact .longLiteral found
  | some (.text text), found => exact .noLongLiteral found (by simp)
  | some (.int int), found => exact .noLongLiteral found (by simp)

theorem denotes_fixed {symbols : Symbols} {offset : Nat} {opcode : UInt8}
    {operands rest : List UInt8} {result : Effect}
    (charted : lengthChart[opcode.toNat]? = some (operands.length + 1))
    (read : effect symbols offset opcode (operands ++ rest) = .ok result) :
    (Form.fixed opcode operands).Denotes symbols result := by
  cases kind_of_chart charted with
  | call calls =>
      rw [effect_call symbols offset calls] at read
      simp only [List.cons_append, half, ok_bind, bind_eq_ok_iff, inPlace_eq_ok_iff] at read
      obtain ⟨callee, found, invoked⟩ := read
      cases invoked
      exact .call calls found
  | narrow narrow loads =>
      rw [effect_narrow symbols offset narrow loads] at read
      obtain ⟨value, found, loaded⟩ := bind_eq_ok_iff.mp read
      cases loaded
      exact denotes_loadNarrow narrow loads found
  | long =>
      rw [List.cons_append, List.cons_append, effect_long] at read
      obtain ⟨value, found, loaded⟩ := bind_eq_ok_iff.mp read
      cases loaded
      exact denotes_loadWide found
  | small listed =>
      rw [effect_small symbols offset listed] at read
      cases read
      exact .small listed
  | signedByte =>
      cases read
      rw [← Int32.ofInt_int8ToInt]
      exact .signedByte
  | signedHalf =>
      cases read
      rw [← Int32.ofInt_int16ToInt]
      exact .signedHalf
  | push listed =>
      rw [effect_push symbols offset listed] at read
      cases read
      exact .push listed
  | other unlisted notWide =>
      rw [effect_other symbols offset unlisted notWide] at read
      cases read
      exact .other unlisted

/-- Every effect that the decoder finds at a complete form is one that the form denotes. -/
theorem denotes_of_effect {symbols : Symbols} {offset : Nat} {form : Form} {rest : List UInt8}
    {result : Effect} (complete : form.Complete offset)
    (read : effect symbols offset form.opcode (form.operands ++ rest) = .ok result) :
    form.Denotes symbols result := by
  have wide (opcode : UInt8) (operands : List UInt8)
      (read : effect symbols offset 0xc4 (opcode :: operands ++ rest) = .ok result) :
      (Form.wide opcode operands).Denotes symbols result := by
    rw [List.cons_append, effect_wide] at read
    split at read
    · cases read
      exact .widePush ‹_›
    · cases read
      exact .wideOther ‹_›
  cases complete with
  | fixed charted => exact denotes_fixed charted read
  | wideIncrement count => exact wide _ _ read
  | wide other count => exact wide _ _ read
  | tableSwitch short aligned counted =>
      cases read
      exact .tableSwitch
  | lookupSwitch short aligned counted =>
      cases read
      exact .lookupSwitch

end GrantSurvey.ClassFile.Bytecode
