import GrantSurvey.Text.ModifiedUtf8

/-!
# Texts in UTF-8

Decoding undoes encoding: the bytes of a text are read back as that text, by the strict reading,
by the forgiving one, and by the one for class files.
-/

namespace GrantSurvey.Utf8

/-! ## Ranges of bytes as ranges of numbers -/

theorem inRange_iff (low high byte : UInt8) :
    (low ≤ byte && byte ≤ high) = true ↔
      low.toNat ≤ byte.toNat ∧ byte.toNat ≤ high.toNat := by
  simp only [Bool.and_eq_true, decide_eq_true_eq, UInt8.le_iff_toNat_le]

theorem isContinuation_iff (byte : UInt8) :
    isContinuation byte = true ↔ 128 ≤ byte.toNat ∧ byte.toNat ≤ 191 :=
  inRange_iff 0x80 0xBF byte

theorem opensThree_iff (lead second : UInt8) :
    opensThree lead second = true ↔
      (lead.toNat = 224 ∧ 160 ≤ second.toNat ∧ second.toNat ≤ 191) ∨
      (lead.toNat = 237 ∧ 128 ≤ second.toNat ∧ second.toNat ≤ 159) ∨
      (lead.toNat ≠ 224 ∧ lead.toNat ≠ 237 ∧ 224 ≤ lead.toNat ∧ lead.toNat ≤ 239 ∧
        128 ≤ second.toNat ∧ second.toNat ≤ 191) := by
  simp only [opensThree, beq_iff_eq, ← UInt8.toNat_inj, UInt8.reduceToNat]
  split
  · simp only [Bool.and_eq_true, decide_eq_true_eq, UInt8.le_iff_toNat_le, UInt8.reduceToNat]
    omega
  split
  · simp only [Bool.and_eq_true, decide_eq_true_eq, UInt8.le_iff_toNat_le, UInt8.reduceToNat]
    omega
  · simp only [Bool.and_eq_true, decide_eq_true_eq, isContinuation_iff, UInt8.le_iff_toNat_le,
      UInt8.reduceToNat]
    omega

theorem opensFour_iff (lead second : UInt8) :
    opensFour lead second = true ↔
      (lead.toNat = 240 ∧ 144 ≤ second.toNat ∧ second.toNat ≤ 191) ∨
      (lead.toNat = 244 ∧ 128 ≤ second.toNat ∧ second.toNat ≤ 143) ∨
      (241 ≤ lead.toNat ∧ lead.toNat ≤ 243 ∧ 128 ≤ second.toNat ∧ second.toNat ≤ 191) := by
  simp only [opensFour, beq_iff_eq, ← UInt8.toNat_inj, UInt8.reduceToNat]
  split
  · simp only [Bool.and_eq_true, decide_eq_true_eq, UInt8.le_iff_toNat_le, UInt8.reduceToNat]
    omega
  split
  · simp only [Bool.and_eq_true, decide_eq_true_eq, UInt8.le_iff_toNat_le, UInt8.reduceToNat]
    omega
  · simp only [Bool.and_eq_true, decide_eq_true_eq, isContinuation_iff, UInt8.le_iff_toNat_le,
      UInt8.reduceToNat]
    omega

/-! ## One character -/

theorem scalar?_one {lead : UInt8} (small : lead.toNat < 128) (rest : List UInt8) :
    scalar? lead rest = some (Char.ofNat lead.toNat, 0) := by
  unfold scalar?
  exact if_pos (UInt8.lt_iff_toNat_lt.mpr small)

theorem scalar?_two {lead second : UInt8} (inTwo : 194 ≤ lead.toNat ∧ lead.toNat ≤ 223)
    (continues : 128 ≤ second.toNat ∧ second.toNat ≤ 191) (rest : List UInt8) :
    scalar? lead (second :: rest) = some (scalarOfTwo lead second, 1) := by
  have notOne : ¬ lead < 0x80 := by
    simp only [UInt8.lt_iff_toNat_lt, UInt8.reduceToNat]
    omega
  have two : (0xC2 ≤ lead && lead ≤ 0xDF) = true := (inRange_iff _ _ _).mpr inTwo
  rw [scalar?, if_neg notOne, if_pos two]
  exact if_pos ((isContinuation_iff second).mpr continues)

theorem scalar?_three {lead second third : UInt8} (inThree : 224 ≤ lead.toNat ∧ lead.toNat ≤ 239)
    (opens : opensThree lead second = true)
    (continues : 128 ≤ third.toNat ∧ third.toNat ≤ 191) (rest : List UInt8) :
    scalar? lead (second :: third :: rest) = some (scalarOfThree lead second third, 2) := by
  have notOne : ¬ lead < 0x80 := by
    simp only [UInt8.lt_iff_toNat_lt, UInt8.reduceToNat]
    omega
  have notTwo : ¬ (0xC2 ≤ lead && lead ≤ 0xDF) = true := by
    simp only [inRange_iff, UInt8.reduceToNat]
    omega
  have three : (0xE0 ≤ lead && lead ≤ 0xEF) = true := (inRange_iff _ _ _).mpr inThree
  rw [scalar?, if_neg notOne, if_neg notTwo, if_pos three]
  exact if_pos (by rw [opens, (isContinuation_iff third).mpr continues]; rfl)

theorem scalar?_four {lead second third fourth : UInt8} (inFour : 240 ≤ lead.toNat)
    (opens : opensFour lead second = true)
    (continues : 128 ≤ third.toNat ∧ third.toNat ≤ 191)
    (ends : 128 ≤ fourth.toNat ∧ fourth.toNat ≤ 191) (rest : List UInt8) :
    scalar? lead (second :: third :: fourth :: rest) =
      some (scalarOfFour lead second third fourth, 3) := by
  have notOne : ¬ lead < 0x80 := by
    simp only [UInt8.lt_iff_toNat_lt, UInt8.reduceToNat]
    omega
  have notTwo : ¬ (0xC2 ≤ lead && lead ≤ 0xDF) = true := by
    simp only [inRange_iff, UInt8.reduceToNat]
    omega
  have notThree : ¬ (0xE0 ≤ lead && lead ≤ 0xEF) = true := by
    simp only [inRange_iff, UInt8.reduceToNat]
    omega
  rw [scalar?, if_neg notOne, if_neg notTwo, if_neg notThree]
  exact if_pos (by
    rw [opens, (isContinuation_iff third).mpr continues, (isContinuation_iff fourth).mpr ends]
    rfl)

theorem code_valid (char : Char) :
    char.toNat < 0xD800 ∨ 0xDFFF < char.toNat ∧ char.toNat < 0x110000 :=
  char.valid

/-- The number of a byte that is small enough. -/
theorem toNat_byte {number : Nat} (small : number < 256) : (UInt8.ofNat number).toNat = number := by
  rw [UInt8.toNat_ofNat', Nat.mod_eq_of_lt small]

theorem scalar?_encode_two {char : Char} (large : 0x80 ≤ char.toNat) (small : char.toNat < 0x800)
    (rest : List UInt8) :
    scalar? (.ofNat (0xC0 + char.toNat / 64)) (.ofNat (0x80 + char.toNat % 64) :: rest) =
      some (char, 1) := by
  have lead : (UInt8.ofNat (0xC0 + char.toNat / 64)).toNat = 0xC0 + char.toNat / 64 :=
    toNat_byte (by omega)
  have second : (UInt8.ofNat (0x80 + char.toNat % 64)).toNat = 0x80 + char.toNat % 64 :=
    toNat_byte (by omega)
  have code : (0xC0 + char.toNat / 64) % 32 * 64 + (0x80 + char.toNat % 64) % 64 = char.toNat := by
    omega
  rw [scalar?_two (by omega) (by omega), scalarOfTwo, payload, lead, second, code,
    Char.ofNat_toNat]

theorem scalar?_encode_three {char : Char} (large : 0x800 ≤ char.toNat)
    (small : char.toNat < 0x10000) (rest : List UInt8) :
    scalar? (.ofNat (0xE0 + char.toNat / 4096))
        (.ofNat (0x80 + char.toNat / 64 % 64) :: .ofNat (0x80 + char.toNat % 64) :: rest) =
      some (char, 2) := by
  have valid := code_valid char
  have lead : (UInt8.ofNat (0xE0 + char.toNat / 4096)).toNat = 0xE0 + char.toNat / 4096 :=
    toNat_byte (by omega)
  have second : (UInt8.ofNat (0x80 + char.toNat / 64 % 64)).toNat = 0x80 + char.toNat / 64 % 64 :=
    toNat_byte (by omega)
  have third : (UInt8.ofNat (0x80 + char.toNat % 64)).toNat = 0x80 + char.toNat % 64 :=
    toNat_byte (by omega)
  have opens : opensThree (.ofNat (0xE0 + char.toNat / 4096))
      (.ofNat (0x80 + char.toNat / 64 % 64)) = true := by
    rw [opensThree_iff, lead, second]
    omega
  have code : (0xE0 + char.toNat / 4096) % 16 * 4096 + (0x80 + char.toNat / 64 % 64) % 64 * 64 +
      (0x80 + char.toNat % 64) % 64 = char.toNat := by
    omega
  rw [scalar?_three (by omega) opens (by omega), scalarOfThree, payload, payload, lead, second,
    third, code, Char.ofNat_toNat]

theorem scalar?_encode_four {char : Char} (large : 0x10000 ≤ char.toNat) (rest : List UInt8) :
    scalar? (.ofNat (0xF0 + char.toNat / 262144))
        (.ofNat (0x80 + char.toNat / 4096 % 64) :: .ofNat (0x80 + char.toNat / 64 % 64) ::
          .ofNat (0x80 + char.toNat % 64) :: rest) =
      some (char, 3) := by
  have valid := code_valid char
  have lead : (UInt8.ofNat (0xF0 + char.toNat / 262144)).toNat = 0xF0 + char.toNat / 262144 :=
    toNat_byte (by omega)
  have second : (UInt8.ofNat (0x80 + char.toNat / 4096 % 64)).toNat =
      0x80 + char.toNat / 4096 % 64 :=
    toNat_byte (by omega)
  have third : (UInt8.ofNat (0x80 + char.toNat / 64 % 64)).toNat = 0x80 + char.toNat / 64 % 64 :=
    toNat_byte (by omega)
  have fourth : (UInt8.ofNat (0x80 + char.toNat % 64)).toNat = 0x80 + char.toNat % 64 :=
    toNat_byte (by omega)
  have opens : opensFour (.ofNat (0xF0 + char.toNat / 262144))
      (.ofNat (0x80 + char.toNat / 4096 % 64)) = true := by
    rw [opensFour_iff, lead, second]
    omega
  have code : (0xF0 + char.toNat / 262144) % 8 * 262144 +
      (0x80 + char.toNat / 4096 % 64) % 64 * 4096 + (0x80 + char.toNat / 64 % 64) % 64 * 64 +
      (0x80 + char.toNat % 64) % 64 = char.toNat := by
    omega
  rw [scalar?_four (by omega) opens (by omega) (by omega), scalarOfFour, payload, payload, payload,
    lead, second, third, fourth, code, Char.ofNat_toNat]

/-- The bytes of a character are read as that character, whatever follows them. -/
theorem scalar?_encodeChar (char : Char) :
    ∃ lead others, encodeChar char = lead :: others ∧
      ∀ rest, scalar? lead (others ++ rest) = some (char, others.length) := by
  unfold encodeChar
  simp only
  split
  · rename_i one
    have lead : (UInt8.ofNat char.toNat).toNat = char.toNat := toNat_byte (by omega)
    refine ⟨_, [], rfl, fun rest => ?_⟩
    rw [scalar?_one (by omega), lead, Char.ofNat_toNat]
    rfl
  split
  · exact ⟨_, [_], rfl, scalar?_encode_two (by omega) (by omega)⟩
  split
  · exact ⟨_, [_, _], rfl, scalar?_encode_three (by omega) (by omega)⟩
  · exact ⟨_, [_, _, _], rfl, scalar?_encode_four (by omega)⟩

/-! ## Texts -/

/-- Decoding undoes encoding. -/
theorem decode?_encode (text : List Char) : decode? (encode text) = some text := by
  induction text with
  | nil => rw [encode, List.flatMap_nil, decode?]
  | cons char text ih =>
      obtain ⟨lead, others, written, read⟩ := scalar?_encodeChar char
      rw [encode, List.flatMap_cons, written, List.cons_append, decode?, read]
      simp only [List.drop_left]
      rw [← encode, ih]
      rfl

/-- Forgiving reading finds nothing to forgive in well-formed bytes. -/
theorem decodeLossy_eq {bytes : List UInt8} {text : List Char}
    (decoded : decode? bytes = some text) : decodeLossy bytes = text := by
  induction bytes using decodeLossy.induct generalizing text with
  | case1 =>
      rw [decode?] at decoded
      rw [decodeLossy, Option.some.inj decoded]
  | case2 lead rest char taken found ih =>
      rw [decode?, found] at decoded
      obtain ⟨others, followed, rfl⟩ := Option.map_eq_some_iff.mp decoded
      rw [decodeLossy, found]
      simp only [ih followed]
  | case3 lead rest broken ih =>
      rw [decode?, broken] at decoded
      cases decoded

/-- The bytes of a text, read forgivingly, are that text. -/
theorem textLossy_bytes (text : String) : textLossy (bytes text) = text := by
  rw [textLossy, bytes, decodeLossy_eq (decode?_encode text.toList), String.ofList_toList]

end GrantSurvey.Utf8

namespace GrantSurvey.ModifiedUtf8

/-- The bytes of a text in plain UTF-8, read for a class file, are that text. -/
theorem classText_bytes (text : String) : classText (Utf8.bytes text) = text := by
  rw [classText, Utf8.bytes, Utf8.decode?_encode]
  exact String.ofList_toList

end GrantSurvey.ModifiedUtf8
