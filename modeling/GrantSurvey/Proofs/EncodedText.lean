import GrantSurvey.Proofs.PoolNumbering

/-!
# Texts as class files encode them

Class files write the zero character and the characters beyond the first 65536 in a way of their
own. Reading them strictly gives back every text. Skimming takes the bytes for plain UTF-8: it gives
back the texts without such characters, and puts a replacement in the place of each byte of the
others.
-/

namespace GrantSurvey.Utf8

/-! ## Bytes that start no sequence -/

/-- A byte that starts no sequence, not even a broken one, where `rest` follows it. -/
structure Stray (lead : UInt8) (rest : List UInt8) : Prop where
  large : 128 ≤ lead.toNat
  notTwo : lead.toNat < 194 ∨ 223 < lead.toNat
  notThree : ∀ second ∈ rest.head?, opensThree lead second = false
  notFour : ∀ second ∈ rest.head?, opensFour lead second = false

/-- Bytes each of which is stray, where `rest` follows them. -/
def Strays (rest : List UInt8) : List UInt8 → Prop
  | [] => True
  | lead :: others => Stray lead (others ++ rest) ∧ Strays rest others

theorem stray_of_small {lead : UInt8} (large : 128 ≤ lead.toNat) (small : lead.toNat < 194)
    (rest : List UInt8) : Stray lead rest := by
  refine ⟨large, .inl small, fun second _ => ?_, fun second _ => ?_⟩
  · rw [Bool.eq_false_iff, ne_eq, opensThree_iff]
    omega
  · rw [Bool.eq_false_iff, ne_eq, opensFour_iff]
    omega

/-- The lead of a surrogate, which plain UTF-8 does not allow. -/
theorem stray_of_surrogate {lead second : UInt8} (surrogate : lead.toNat = 237)
    (half : 160 ≤ second.toNat) (rest : List UInt8) : Stray lead (second :: rest) := by
  refine ⟨by omega, .inr (by omega), ?_, ?_⟩
  · rintro _ ⟨⟩
    rw [Bool.eq_false_iff, ne_eq, opensThree_iff]
    omega
  · rintro _ ⟨⟩
    rw [Bool.eq_false_iff, ne_eq, opensFour_iff]
    omega

theorem Stray.scalar?_eq {lead : UInt8} {rest : List UInt8} (stray : Stray lead rest) :
    scalar? lead rest = none := by
  have notOne : ¬ lead < 0x80 := by
    have large := stray.large
    simp only [UInt8.lt_iff_toNat_lt, UInt8.reduceToNat]
    omega
  have notTwo : ¬ (0xC2 ≤ lead && lead ≤ 0xDF) = true := by
    have outside := stray.notTwo
    simp only [inRange_iff, UInt8.reduceToNat]
    omega
  unfold scalar?
  rw [if_neg notOne, if_neg notTwo]
  split
  · split
    · rw [stray.notThree _ rfl]
      rfl
    · rfl
  · split
    · rw [stray.notFour _ rfl]
      rfl
    · rfl

theorem Stray.brokenTail_eq {lead : UInt8} {rest : List UInt8} (stray : Stray lead rest) :
    brokenTail lead rest = 0 := by
  cases rest with
  | nil => rfl
  | cons second rest =>
      simp [brokenTail, stray.notThree second rfl, stray.notFour second rfl]

/-- The strict reading refuses a stray byte. -/
theorem Stray.decode?_eq {lead : UInt8} {rest : List UInt8} (stray : Stray lead rest) :
    decode? (lead :: rest) = none := by
  rw [decode?, stray.scalar?_eq]

/-- The forgiving reading replaces each stray byte by itself. -/
theorem Strays.decodeLossy_eq {bytes rest : List UInt8} (strays : Strays rest bytes) :
    decodeLossy (bytes ++ rest) = bytes.map (fun _ => replacement) ++ decodeLossy rest := by
  induction bytes with
  | nil => rfl
  | cons lead others ih =>
      obtain ⟨stray, strays⟩ := strays
      rw [List.cons_append, decodeLossy, stray.scalar?_eq]
      simp only [stray.brokenTail_eq, List.drop_zero]
      rw [ih strays]
      rfl

/-- The bytes of a character, read forgivingly, are that character. -/
theorem decodeLossy_encodeChar (char : Char) (rest : List UInt8) :
    decodeLossy (encodeChar char ++ rest) = char :: decodeLossy rest := by
  obtain ⟨lead, others, written, read⟩ := scalar?_encodeChar char
  rw [written, List.cons_append, decodeLossy, read]
  simp only [List.drop_left]

theorem decode?_encodeChar (char : Char) (rest : List UInt8) :
    decode? (encodeChar char ++ rest) = (decode? rest).map (char :: ·) := by
  obtain ⟨lead, others, written, read⟩ := scalar?_encodeChar char
  rw [written, List.cons_append, decode?, read]
  simp only [List.drop_left]

end GrantSurvey.Utf8

namespace GrantSurvey.ModifiedUtf8

open Utf8 (Stray Strays stray_of_small stray_of_surrogate toNat_byte code_valid)

def IsPlain (char : Char) : Prop :=
  char.toNat ≠ 0 ∧ char.toNat < 0x10000

instance (char : Char) : Decidable (IsPlain char) :=
  inferInstanceAs (Decidable (_ ∧ _))

/-- What skimming makes of a character: one replacement for each byte, unless it is plain. -/
def skimmedChar (char : Char) : List Char :=
  if IsPlain char then [char] else (encodeChar char).map fun _ => Utf8.replacement

def skimmed (text : String) : String :=
  String.ofList (text.toList.flatMap skimmedChar)

/-! ## One character -/

theorem encodeChar_plain {char : Char} (plain : IsPlain char) :
    encodeChar char = Utf8.encodeChar char := by
  simp only [encodeChar]
  rw [if_neg plain.1, if_pos plain.2]

theorem encodeChar_zero {char : Char} (zero : char.toNat = 0) :
    encodeChar char = [0xC0, 0x80] := by
  simp only [encodeChar]
  rw [if_pos zero]

/-- The last two bytes of a high and of a low surrogate. -/
structure IsPair (high₂ high₃ low₂ low₃ : UInt8) : Prop where
  high₂ : 160 ≤ high₂.toNat ∧ high₂.toNat ≤ 175
  high₃ : 128 ≤ high₃.toNat ∧ high₃.toNat ≤ 191
  low₂ : 176 ≤ low₂.toNat ∧ low₂.toNat ≤ 191
  low₃ : 128 ≤ low₃.toNat ∧ low₃.toNat ≤ 191

/-- A character beyond the first 65536 is written as two surrogates. -/
theorem exists_pair {char : Char} (large : 0x10000 ≤ char.toNat) :
    ∃ high₂ high₃ low₂ low₃ : UInt8, IsPair high₂ high₃ low₂ low₃ ∧
      encodeChar char = [0xED, high₂, high₃, 0xED, low₂, low₃] ∧
      scalarOfPair high₂ high₃ low₂ low₃ = char := by
  have valid := code_valid char
  have second : (UInt8.ofNat (0xA0 + (char.toNat - 0x10000) / 1024 / 64)).toNat =
      0xA0 + (char.toNat - 0x10000) / 1024 / 64 := toNat_byte (by omega)
  have third : (UInt8.ofNat (0x80 + (char.toNat - 0x10000) / 1024 % 64)).toNat =
      0x80 + (char.toNat - 0x10000) / 1024 % 64 := toNat_byte (by omega)
  have fifth : (UInt8.ofNat (0xB0 + (char.toNat - 0x10000) % 1024 / 64)).toNat =
      0xB0 + (char.toNat - 0x10000) % 1024 / 64 := toNat_byte (by omega)
  have sixth : (UInt8.ofNat (0x80 + (char.toNat - 0x10000) % 1024 % 64)).toNat =
      0x80 + (char.toNat - 0x10000) % 1024 % 64 := toNat_byte (by omega)
  have code : 0x10000 + ((0xA0 + (char.toNat - 0x10000) / 1024 / 64) % 16 * 64 +
      (0x80 + (char.toNat - 0x10000) / 1024 % 64) % 64) * 1024 +
      ((0xB0 + (char.toNat - 0x10000) % 1024 / 64) % 16 * 64 +
        (0x80 + (char.toNat - 0x10000) % 1024 % 64) % 64) = char.toNat := by
    omega
  refine ⟨_, _, _, _, ⟨?_, ?_, ?_, ?_⟩, if_neg (by omega) |>.trans (if_neg (by omega)), ?_⟩
  · omega
  · omega
  · omega
  · omega
  · rw [scalarOfPair, Utf8.payload, Utf8.payload, second, third, fifth, sixth, code,
      Char.ofNat_toNat]

/-- To plain UTF-8, the bytes of a character that is not plain are stray, all of them. -/
theorem strays_encodeChar {char : Char} (odd : ¬ IsPlain char) (rest : List UInt8) :
    2 ≤ (encodeChar char).length ∧ Strays rest (encodeChar char) := by
  by_cases zero : char.toNat = 0
  · rw [encodeChar_zero zero]
    exact ⟨Nat.le_refl 2, stray_of_small (by decide) (by decide) _,
      stray_of_small (by decide) (by decide) _, trivial⟩
  · have large : 0x10000 ≤ char.toNat := Nat.le_of_not_lt fun small => odd ⟨zero, small⟩
    obtain ⟨high₂, high₃, low₂, low₃, pair, written, -⟩ := exists_pair large
    obtain ⟨second, third, fifth, sixth⟩ := pair
    rw [written]
    refine ⟨Nat.le_add_left 2 4, stray_of_surrogate rfl second.1 _, ?_, ?_,
      stray_of_surrogate rfl (by omega) _, ?_, ?_, trivial⟩
    · exact stray_of_small (by omega) (by omega) _
    · exact stray_of_small third.1 (by omega) _
    · exact stray_of_small (by omega) (by omega) _
    · exact stray_of_small sixth.1 (by omega) _

/-- Up to three bytes, the variant reads what plain UTF-8 reads, except for a zero byte. -/
theorem scalar?_of_utf8 {lead : UInt8} {rest : List UInt8} {char : Char} {taken : Nat}
    (read : Utf8.scalar? lead rest = some (char, taken)) (notZero : lead.toNat ≠ 0)
    (few : taken ≤ 2) : scalar? lead rest = some (char, taken) := by
  have nonzero : ¬ (lead == 0) = true := by
    simpa [← UInt8.toNat_inj] using notZero
  have notOverlong (other : lead.toNat ≠ 192) : ¬ (lead == 0xC0) = true := by
    simpa [← UInt8.toNat_inj] using other
  unfold Utf8.scalar? at read
  unfold scalar?
  rw [if_neg nonzero]
  split at read
  · rename_i one
    rw [if_pos one]
    exact read
  rename_i notOne
  rw [if_neg notOne]
  split at read
  · rename_i two
    have range := (Utf8.inRange_iff _ _ _).mp two
    simp only [UInt8.reduceToNat] at range
    rw [if_neg (notOverlong (by omega)), if_pos two]
    exact read
  rename_i notTwo
  split at read
  · rename_i three
    have range := (Utf8.inRange_iff _ _ _).mp three
    simp only [UInt8.reduceToNat] at range
    rw [if_neg (notOverlong (by omega)), if_neg notTwo]
    split at read
    · split at read
      · rename_i opens
        simp only [opens, if_true]
        exact read
      · cases read
    · cases read
  · split at read
    · split at read
      · cases read
        omega
      · cases read
    · cases read

theorem scalar?_pair {high₂ high₃ low₂ low₃ : UInt8} (pair : IsPair high₂ high₃ low₂ low₃)
    (rest : List UInt8) :
    scalar? 0xED (high₂ :: high₃ :: 0xED :: low₂ :: low₃ :: rest) =
      some (scalarOfPair high₂ high₃ low₂ low₃, 5) := by
  have closed : Utf8.opensThree 0xED high₂ = false := by
    have range := pair.high₂
    rw [Bool.eq_false_iff, ne_eq, Utf8.opensThree_iff]
    simp only [UInt8.reduceToNat]
    omega
  have high : isHighHalf high₂ = true := (Utf8.inRange_iff _ _ _).mpr pair.high₂
  have low : isLowHalf low₂ = true := (Utf8.inRange_iff _ _ _).mpr pair.low₂
  have third := (Utf8.isContinuation_iff high₃).mpr pair.high₃
  have sixth := (Utf8.isContinuation_iff low₃).mpr pair.low₃
  simp [scalar?, closed, high, low, third, sixth]

/-- A plain character takes three bytes at most, the first of which is not zero. -/
theorem lead_of_plain {char : Char} (plain : IsPlain char) {lead : UInt8} {others : List UInt8}
    (written : Utf8.encodeChar char = lead :: others) : lead.toNat ≠ 0 ∧ others.length ≤ 2 := by
  obtain ⟨notZero, small⟩ := plain
  simp only [Utf8.encodeChar, small, if_true] at written
  split at written
  · cases written
    rw [toNat_byte (by omega)]
    exact ⟨notZero, Nat.zero_le 2⟩
  split at written
  · cases written
    rw [toNat_byte (by omega)]
    exact ⟨by omega, Nat.le_succ 1⟩
  · cases written
    rw [toNat_byte (by omega)]
    exact ⟨by omega, Nat.le_refl 2⟩

/-- The bytes of a character are read as that character, whatever follows them. -/
theorem scalar?_encodeChar (char : Char) :
    ∃ lead others, encodeChar char = lead :: others ∧
      ∀ rest, scalar? lead (others ++ rest) = some (char, others.length) := by
  by_cases plain : IsPlain char
  · obtain ⟨lead, others, written, read⟩ := Utf8.scalar?_encodeChar char
    have fits := lead_of_plain plain written
    refine ⟨lead, others, (encodeChar_plain plain).trans written, fun rest => ?_⟩
    exact scalar?_of_utf8 (read rest) fits.1 fits.2
  by_cases zero : char.toNat = 0
  · have null : Char.ofNat 0 = char := by rw [← zero, Char.ofNat_toNat]
    exact ⟨0xC0, [0x80], encodeChar_zero zero, fun rest => by rw [← null]; rfl⟩
  · have large : 0x10000 ≤ char.toNat := Nat.le_of_not_lt fun small => plain ⟨zero, small⟩
    obtain ⟨high₂, high₃, low₂, low₃, pair, written, same⟩ := exists_pair large
    exact ⟨0xED, _, written, fun rest => (scalar?_pair pair rest).trans (by rw [same]; rfl)⟩

/-! ## Texts -/

/-- The variant reads back every text that is written in it. -/
theorem decode?_encode (text : List Char) : decode? (encode text) = some text := by
  induction text with
  | nil => rw [encode, List.flatMap_nil, decode?]
  | cons char text ih =>
      obtain ⟨lead, others, written, read⟩ := scalar?_encodeChar char
      rw [encode, List.flatMap_cons, written, List.cons_append, decode?, read]
      simp only [List.drop_left]
      rw [← encode, ih]
      rfl

/-- If the bytes of a text happen to be plain UTF-8, then for the same text. -/
theorem eq_of_utf8 {text other : List Char} (read : Utf8.decode? (encode text) = some other) :
    other = text := by
  induction text generalizing other with
  | nil =>
      rw [encode, List.flatMap_nil, Utf8.decode?] at read
      exact (Option.some.inj read).symm
  | cons char text ih =>
      rw [encode, List.flatMap_cons, ← encode] at read
      by_cases plain : IsPlain char
      · rw [encodeChar_plain plain, Utf8.decode?_encodeChar] at read
        obtain ⟨others, followed, rfl⟩ := Option.map_eq_some_iff.mp read
        rw [ih followed]
      · obtain ⟨long, strays⟩ := strays_encodeChar plain (encode text)
        cases written : encodeChar char with
        | nil => simp [written] at long
        | cons lead others =>
            rw [written] at read strays
            rw [List.cons_append, strays.1.decode?_eq] at read
            cases read

/-- Reading strictly gives back every text. -/
theorem classText_encode (text : String) : classText (encode text.toList) = text := by
  rw [classText]
  cases read : Utf8.decode? (encode text.toList) with
  | none =>
      rw [decode?_encode]
      exact String.ofList_toList
  | some other =>
      rw [eq_of_utf8 read]
      exact String.ofList_toList

/-- Skimming gives back the plain characters only. -/
theorem textLossy_encode (text : String) :
    Utf8.textLossy (encode text.toList) = skimmed text := by
  rw [Utf8.textLossy, skimmed]
  congr 1
  induction text.toList with
  | nil => rw [encode, List.flatMap_nil, List.flatMap_nil, Utf8.decodeLossy]
  | cons char text ih =>
      rw [encode, List.flatMap_cons, ← encode, List.flatMap_cons, skimmedChar]
      split
      · rename_i plain
        rw [encodeChar_plain plain, Utf8.decodeLossy_encodeChar, ih]
        rfl
      · rename_i odd
        rw [(strays_encodeChar odd _).2.decodeLossy_eq, ih]

theorem length_le_skimmed (text : List Char) :
    text.length ≤ (text.flatMap skimmedChar).length := by
  induction text with
  | nil => exact Nat.le_refl 0
  | cons char text ih =>
      have some : 1 ≤ (skimmedChar char).length := by
        rw [skimmedChar]
        split
        · exact Nat.le_refl 1
        · rename_i odd
          have long := (strays_encodeChar odd []).1
          rw [List.length_map]
          omega
      rw [List.flatMap_cons, List.length_append, List.length_cons]
      omega

/-- A text survives skimming if all its characters are plain, and only then. -/
theorem skimmed_eq_iff (text : String) :
    skimmed text = text ↔ ∀ char ∈ text.toList, IsPlain char := by
  rw [skimmed, ← String.toList_inj, String.toList_ofList]
  induction text.toList with
  | nil => simp
  | cons char text ih =>
      rw [List.flatMap_cons, List.forall_mem_cons, ← ih, skimmedChar]
      split
      · rename_i plain
        simp [plain]
      · rename_i odd
        -- The replacements alone are more than the character, and the rest gets no shorter.
        refine ⟨fun same => ?_, fun plain => absurd plain.1 odd⟩
        have long := (strays_encodeChar odd []).1
        have rest := length_le_skimmed text
        have lengths := congrArg List.length same
        rw [List.length_append, List.length_map, List.length_cons] at lengths
        omega

end GrantSurvey.ModifiedUtf8

namespace GrantSurvey.ClassFile.PoolText

open ModifiedUtf8 (encode IsPlain skimmed)
open Reader (readAll)

variable {pool : PoolText} {number index : UInt16} {text : String} {short : _}

theorem Holds.strict_literal (written : pool.Holds number (.utf8 (encode text.toList) short))
    (loaded : pool.Holds index (.string number)) :
    (pool.entries ModifiedUtf8.classText).strictSymbols.literal index =
      .ok (some (.text text)) := by
  simp only [ConstantPool.strictSymbols, ConstantPool.Strict.literal, ConstantPool.Strict.utf8,
    ConstantPool.Strict.entry, loaded.entry?_eq, written.entry?_eq, Constant.entry,
    ModifiedUtf8.classText_encode, Outcome.ok_bind]
  rfl

theorem Holds.skim_literal (written : pool.Holds number (.utf8 (encode text.toList) short))
    (loaded : pool.Holds index (.string number)) :
    (pool.entries Utf8.textLossy).skimSymbols.literal index =
      .ok (some (.text (skimmed text))) := by
  simp only [ConstantPool.skimSymbols, ConstantPool.Skim.literal, ConstantPool.Skim.utf8,
    loaded.entry?_eq, written.entry?_eq, Constant.entry, ModifiedUtf8.textLossy_encode]
  rfl

/-- A text that is written as class files encode it is stored, and loaded as a literal, by either
reading of the pool. Reading strictly keeps every text. Skimming keeps those whose characters are
all plain, and no other. -/
theorem encoded_text_survives_iff (written : pool.Holds number (.utf8 (encode text.toList) short))
    (loaded : pool.Holds index (.string number)) (rest : List UInt8) :
    ∃ strictPool skimPool : ConstantPool,
      readAll Strict.pool (pool.bytes ++ rest) = .ok strictPool ∧
      readAll Skim.pool (pool.bytes ++ rest) = .ok skimPool ∧
      strictPool.entry? number = some (.utf8 text) ∧
      strictPool.strictSymbols.literal index = .ok (some (.text text)) ∧
      skimPool.entry? number = some (.utf8 (skimmed text)) ∧
      skimPool.skimSymbols.literal index = .ok (some (.text (skimmed text))) ∧
      (skimmed text = text ↔ ∀ char ∈ text.toList, IsPlain char) := by
  refine ⟨pool.entries ModifiedUtf8.classText, pool.entries Utf8.textLossy,
    pool.yields_strict.readAll_eq rest, pool.yields_skim.readAll_eq rest, ?_,
    written.strict_literal loaded, ?_, written.skim_literal loaded,
    ModifiedUtf8.skimmed_eq_iff text⟩
  · rw [written.entry?_eq, Constant.entry, ModifiedUtf8.classText_encode]
  · rw [written.entry?_eq, Constant.entry, ModifiedUtf8.textLossy_encode]

/-- A text with accents is plain, so both readings load it as it is. -/
theorem encoded_text_survives_iff_accented :
    let text := String.ofList ['/', Char.ofNat 0xE9, Char.ofNat 0x20AC]
    let pool : PoolText := ⟨[.utf8 (encode text.toList) (by decide), .string 1], by decide⟩
    ∃ strictPool skimPool : ConstantPool,
      readAll Strict.pool (pool.bytes ++ [0, 33]) = .ok strictPool ∧
      readAll Skim.pool (pool.bytes ++ [0, 33]) = .ok skimPool ∧
      strictPool.strictSymbols.literal 2 = .ok (some (.text text)) ∧
      skimPool.skimSymbols.literal 2 = .ok (some (.text text)) := by
  intro text pool
  obtain ⟨strictPool, skimPool, strictRead, skimRead, _, strictLoads, _, skimLoads, survives⟩ :=
    @encoded_text_survives_iff pool 1 2 text _ rfl rfl [0, 33]
  have plain : ∀ char ∈ text.toList, IsPlain char := by
    rw [String.toList_ofList]
    simp only [List.forall_mem_cons]
    exact ⟨by decide, by decide, by decide, List.forall_mem_nil _⟩
  rw [survives.mpr plain] at skimLoads
  exact ⟨strictPool, skimPool, strictRead, skimRead, strictLoads, skimLoads⟩

/-- A zero character and one beyond the first 65536 are kept by reading strictly. Skimming replaces
all their eight bytes. -/
theorem encoded_text_lost :
    let text := String.ofList [Char.ofNat 0, Char.ofNat 0x1F600]
    let pool : PoolText := ⟨[.utf8 (encode text.toList) (by decide), .string 1], by decide⟩
    pool.Holds 1 (.utf8 (encode text.toList) (by decide)) ∧ pool.Holds 2 (.string 1) ∧
      (pool.entries ModifiedUtf8.classText).strictSymbols.literal 2 = .ok (some (.text text)) ∧
      (pool.entries Utf8.textLossy).skimSymbols.literal 2 =
        .ok (some (.text (String.ofList (List.replicate 8 Utf8.replacement)))) ∧
      String.ofList (List.replicate 8 Utf8.replacement) ≠ text := by
  intro text pool
  have written : pool.Holds 1 (.utf8 (encode text.toList) (by decide)) := rfl
  have loaded : pool.Holds 2 (.string 1) := rfl
  have lost : skimmed text = String.ofList (List.replicate 8 Utf8.replacement) := by
    rw [skimmed, String.toList_ofList]
    rfl
  refine ⟨written, loaded, written.strict_literal loaded, ?_, by decide⟩
  rw [← lost]
  exact written.skim_literal loaded

end GrantSurvey.ClassFile.PoolText
