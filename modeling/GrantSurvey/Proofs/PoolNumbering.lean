import GrantSurvey.Proofs.LookupAgreement
import GrantSurvey.Proofs.PoolWriting

/-!
# What a written pool holds

Constants are numbered from one on, and a constant of eight bytes takes two numbers. What a number
stands for, be it a text, a class, a method or a literal, is said here from the constants as they
are written. The skimming look-ups find what the pool holds, and go on to find it when constants are
added at the end.
-/

namespace GrantSurvey.ClassFile

open BigEndian Outcome

/-- What stands under the numbers that a constant takes: under the second one, nothing. -/
def Constant.slots (constant : Constant) : List (Option Constant) :=
  some constant :: List.replicate (constant.width - 1) none

def Constant.isLiteral : Constant → Bool
  | string _ | integer _ | long _ _ => true
  | _ => false

namespace PoolText

/-- What stands under each number. Nothing stands under zero. -/
def slots (pool : PoolText) : List (Option Constant) :=
  none :: pool.constants.flatMap Constant.slots

def Holds (pool : PoolText) (index : UInt16) (constant : Constant) : Prop :=
  pool.slots[index.toNat]? = some (some constant)

def HoldsText (pool : PoolText) (index : UInt16) (text : String) : Prop :=
  ∃ short, pool.Holds index (.utf8 (Utf8.bytes text) short)

def HoldsClass (pool : PoolText) (index : UInt16) (name : String) : Prop :=
  ∃ number, pool.Holds index (.classRef number) ∧ pool.HoldsText number name

def HoldsMethod (pool : PoolText) (index : UInt16) (symbol : MethodSymbol) : Prop :=
  ∃ owner signature name descriptor,
    (pool.Holds index (.methodRef owner signature) ∨
      pool.Holds index (.interfaceMethodRef owner signature)) ∧
    pool.Holds signature (.nameAndType name descriptor) ∧
    pool.HoldsClass owner symbol.owner ∧ pool.HoldsText name symbol.name ∧
    pool.HoldsText descriptor symbol.descriptor

/-- The number stands for a literal, or for something else that a body may load. -/
inductive HoldsLiteral (pool : PoolText) (index : UInt16) : Option Literal → Prop where
  | text {number : UInt16} {value : String} (here : pool.Holds index (.string number))
      (text : pool.HoldsText number value) : HoldsLiteral pool index (some (.text value))
  | int {value : UInt32} (here : pool.Holds index (.integer value)) :
      HoldsLiteral pool index (some (.int value.toInt32))
  | long {high low : UInt32} (here : pool.Holds index (.long high low)) :
      HoldsLiteral pool index (some (.long (u8 high low).toInt64))
  | other {constant : Constant} (here : pool.Holds index constant)
      (other : constant.isLiteral = false) : HoldsLiteral pool index none
  | nothing (here : pool.slots[index.toNat]? = some none) : HoldsLiteral pool index none

structure Backs (pool : PoolText) (symbols : Symbols) : Prop where
  method : ∀ index symbol, symbols.method index = .ok symbol → pool.HoldsMethod index symbol
  literal : ∀ index value, symbols.literal index = .ok value → pool.HoldsLiteral index value

/-! ## Look-ups find what the pool holds -/

theorem entry?_eq (text : List UInt8 → String) (pool : PoolText) (index : UInt16) :
    ConstantPool.entry? (pool.entries text) index =
      pool.slots[index.toNat]?.map fun slot => slot.elim .unused (Constant.entry text) := by
  have one : Constant.entries text = fun constant =>
      constant.slots.map fun slot => slot.elim .unused (Constant.entry text) := by
    funext constant
    simp [Constant.entries, Constant.slots]
  rw [ ConstantPool.entry?, PoolText.entries, List.getElem?_toArray, ← List.getElem?_map, slots,
    List.map_cons, List.map_flatMap, one]
  rfl

variable {pool : PoolText} {index : UInt16}

theorem Holds.entry?_eq {constant : Constant} (holds : pool.Holds index constant)
    (text : List UInt8 → String) :
    ConstantPool.entry? (pool.entries text) index = some (constant.entry text) := by
  rw [pool.entry?_eq, holds]
  rfl

theorem HoldsText.utf8_eq {text : String} (holds : pool.HoldsText index text) :
    ConstantPool.Skim.utf8 (pool.entries Utf8.textLossy) index = .ok text := by
  obtain ⟨short, here⟩ := holds
  rw [ConstantPool.Skim.utf8, here.entry?_eq, Constant.entry, Utf8.textLossy_bytes]

theorem HoldsClass.className_eq {name : String} (holds : pool.HoldsClass index name) :
    ConstantPool.Skim.className (pool.entries Utf8.textLossy) index = .ok name := by
  obtain ⟨number, here, named⟩ := holds
  rw [ConstantPool.Skim.className, here.entry?_eq]
  exact named.utf8_eq

theorem HoldsMethod.method_eq {symbol : MethodSymbol} (holds : pool.HoldsMethod index symbol) :
    ConstantPool.Skim.method (pool.entries Utf8.textLossy) index = .ok symbol := by
  obtain ⟨owner, signature, name, descriptor, here, signed, owned, named, described⟩ := holds
  have reference : ConstantPool.entry? (pool.entries Utf8.textLossy) index =
      some (.methodRef owner signature) := by
    rcases here with here | here
    · exact here.entry?_eq _
    · exact here.entry?_eq _
  rw [ConstantPool.Skim.method, reference]
  simp only [signed.entry?_eq, Constant.entry, owned.className_eq, named.utf8_eq,
    described.utf8_eq]
  rfl

theorem HoldsLiteral.literal_eq {value : Option Literal} (holds : pool.HoldsLiteral index value) :
    ConstantPool.Skim.literal (pool.entries Utf8.textLossy) index = .ok value := by
  rw [ConstantPool.Skim.literal]
  cases holds with
  | text here text =>
      simp only [here.entry?_eq, Constant.entry, text.utf8_eq]
      rfl
  | int here =>
      rw [here.entry?_eq]
      rfl
  | long here =>
      rw [here.entry?_eq]
      rfl
  | @other constant here other =>
      rw [here.entry?_eq]
      cases constant with
      | string | integer | long => cases other
      | _ => rfl
  | nothing here =>
      rw [pool.entry?_eq, here]
      rfl

/-- A body that is decoded with what the pool holds is decoded so when it is skimmed. -/
theorem Backs.decode_coveredBy {symbols : Symbols} (backs : pool.Backs symbols)
    (handlers : List Nat) (code : List UInt8) :
    CoveredBy (Bytecode.decode symbols handlers code)
      (Bytecode.decode (pool.entries Utf8.textLossy).skimSymbols handlers code) :=
  Bytecode.decode_coveredBy
    (fun index symbol answered => (backs.method index symbol answered).method_eq)
    (fun index value answered => (backs.literal index value answered).literal_eq) handlers code

/-! ## The pool holds what look-ups find -/

/-- An entry that is used stems from the constant under its number. -/
theorem exists_holds {text : List UInt8 → String} {entry : Entry}
    (found : ConstantPool.entry? (pool.entries text) index = some entry) (used : entry ≠ .unused) :
    ∃ constant, pool.Holds index constant ∧ constant.entry text = entry := by
  rw [pool.entry?_eq] at found
  obtain ⟨slot, here, same⟩ := Option.map_eq_some_iff.mp found
  cases slot with
  | none => exact absurd same.symm used
  | some constant => exact ⟨constant, here, same⟩

theorem Holds.mem {constant : Constant} (holds : pool.Holds index constant) :
    constant ∈ pool.constants := by
  have member := List.mem_of_getElem? holds
  simpa [slots, Constant.slots] using member

theorem holdsText_of_utf8 (standard : pool.Standard) {text : String}
    (found : ConstantPool.Skim.utf8 (pool.entries Utf8.textLossy) index = .ok text) :
    pool.HoldsText index text := by
  unfold ConstantPool.Skim.utf8 at found
  split at found
  · rename_i entry here
    cases found
    obtain ⟨constant, holds, same⟩ := exists_holds here nofun
    cases constant with
    | utf8 bytes short =>
        obtain ⟨written, rfl⟩ := standard bytes short holds.mem
        cases same
        rw [Utf8.textLossy_bytes]
        exact ⟨short, holds⟩
    | _ => cases same
  · cases found

theorem holdsClass_of_className (standard : pool.Standard) {name : String}
    (found : ConstantPool.Skim.className (pool.entries Utf8.textLossy) index = .ok name) :
    pool.HoldsClass index name := by
  unfold ConstantPool.Skim.className at found
  split at found
  · rename_i number here
    obtain ⟨constant, holds, same⟩ := exists_holds here nofun
    cases constant with
    | classRef number =>
        cases same
        exact ⟨number, holds, holdsText_of_utf8 standard found⟩
    | _ => cases same
  · cases found

theorem holdsMethod_of_method (standard : pool.Standard) {symbol : MethodSymbol}
    (found : ConstantPool.Skim.method (pool.entries Utf8.textLossy) index = .ok symbol) :
    pool.HoldsMethod index symbol := by
  unfold ConstantPool.Skim.method at found
  split at found
  · rename_i owner signature here
    obtain ⟨constant, holds, same⟩ := exists_holds here nofun
    have reference : pool.Holds index (.methodRef owner signature) ∨
        pool.Holds index (.interfaceMethodRef owner signature) := by
      cases constant with
      | methodRef =>
          cases same
          exact .inl holds
      | interfaceMethodRef =>
          cases same
          exact .inr holds
      | _ => cases same
    obtain ⟨ownerName, owned, found⟩ := bind_eq_ok_iff.mp found
    split at found
    · rename_i name descriptor there
      obtain ⟨constant, signed, same⟩ := exists_holds there nofun
      obtain ⟨methodName, named, found⟩ := bind_eq_ok_iff.mp found
      obtain ⟨type, typed, found⟩ := bind_eq_ok_iff.mp found
      cases found
      cases constant with
      | nameAndType =>
          cases same
          exact ⟨owner, signature, _, _, reference, signed,
            holdsClass_of_className standard (inPlace_eq_ok_iff.mp owned),
            holdsText_of_utf8 standard (inPlace_eq_ok_iff.mp named),
            holdsText_of_utf8 standard (inPlace_eq_ok_iff.mp typed)⟩
      | _ => cases same
    · cases found
  · cases found

theorem holdsLiteral_of_literal (standard : pool.Standard) {value : Option Literal}
    (found : ConstantPool.Skim.literal (pool.entries Utf8.textLossy) index = .ok value) :
    pool.HoldsLiteral index value := by
  unfold ConstantPool.Skim.literal at found
  rw [pool.entry?_eq] at found
  cases here : pool.slots[index.toNat]? with
  | none =>
      rw [here] at found
      cases found
  | some slot =>
      rw [here] at found
      cases slot with
      | none =>
          cases found
          exact .nothing here
      | some constant =>
          cases constant with
          | string number =>
              obtain ⟨text, read, found⟩ := bind_eq_ok_iff.mp found
              cases found
              exact .text here (holdsText_of_utf8 standard read)
          | integer =>
              cases found
              exact .int here
          | long =>
              cases found
              exact .long here
          | _ =>
              cases found
              exact .other here rfl

/-- A pool with texts in plain UTF-8 backs its look-ups. -/
theorem Standard.backs_skimSymbols (standard : pool.Standard) :
    pool.Backs (pool.entries Utf8.textLossy).skimSymbols where
  method _ _ found := holdsMethod_of_method standard found
  literal _ _ found := holdsLiteral_of_literal standard found

end PoolText

/-! ## Larger pools -/

namespace ConstantPool

/-- The entries of a pool stand under the same numbers in another one. -/
def ExtendedBy (pool other : ConstantPool) : Prop :=
  ∀ index entry, pool.entry? index = some entry → other.entry? index = some entry

variable {pool other : ConstantPool} (extended : pool.ExtendedBy other)

include extended

theorem ExtendedBy.utf8 (index : UInt16) :
    CoveredBy (Skim.utf8 pool index) (Skim.utf8 other index) := by
  unfold Skim.utf8
  cases found : pool.entry? index with
  | none => exact nofun
  | some entry =>
      rw [extended index entry found]
      exact CoveredBy.refl _

theorem ExtendedBy.className (index : UInt16) :
    CoveredBy (Skim.className pool index) (Skim.className other index) := by
  unfold Skim.className
  cases found : pool.entry? index with
  | none => exact nofun
  | some entry =>
      rw [extended index entry found]
      cases entry with
      | classRef name => exact extended.utf8 name
      | _ => exact CoveredBy.refl _

theorem ExtendedBy.method (index : UInt16) :
    CoveredBy (Skim.method pool index) (Skim.method other index) := by
  unfold Skim.method
  cases found : pool.entry? index with
  | none => exact nofun
  | some entry =>
      rw [extended index entry found]
      cases entry with
      | methodRef owner signature =>
          refine (coveredBy_inPlace (extended.className owner) _ _).bind fun _ _ => ?_
          cases signed : pool.entry? signature with
          | none => exact nofun
          | some entry =>
              rw [extended signature entry signed]
              cases entry with
              | nameAndType name descriptor =>
                  refine (coveredBy_inPlace (extended.utf8 name) _ _).bind fun _ _ => ?_
                  exact (coveredBy_inPlace (extended.utf8 descriptor) _ _).bind fun _ _ =>
                    CoveredBy.refl _
              | _ => exact CoveredBy.refl _
      | _ => exact CoveredBy.refl _

theorem ExtendedBy.literal (index : UInt16) :
    CoveredBy (Skim.literal pool index) (Skim.literal other index) := by
  unfold Skim.literal
  cases found : pool.entry? index with
  | none => exact nofun
  | some entry =>
      rw [extended index entry found]
      cases entry with
      | string text => exact (extended.utf8 text).bind fun _ _ => CoveredBy.refl _
      | _ => exact CoveredBy.refl _

theorem ExtendedBy.decode (handlers : List Nat) (code : List UInt8) :
    CoveredBy (Bytecode.decode pool.skimSymbols handlers code)
      (Bytecode.decode other.skimSymbols handlers code) :=
  Bytecode.decode_coveredBy extended.method extended.literal handlers code

end ConstantPool

/-- Constants that are added at the end leave the numbers of the others alone. -/
theorem PoolText.extendedBy_of_append {pool other : PoolText} {more : List Constant}
    (longer : other.constants = pool.constants ++ more) (text : List UInt8 → String) :
    (pool.entries text).ExtendedBy (other.entries text) := by
  intro index entry found
  have slots : other.slots = pool.slots ++ more.flatMap Constant.slots := by
    simp [PoolText.slots, longer]
  rw [PoolText.entry?_eq] at found ⊢
  obtain ⟨slot, here, same⟩ := Option.map_eq_some_iff.mp found
  obtain ⟨inside, _⟩ := List.getElem?_eq_some_iff.mp here
  rw [slots, List.getElem?_append_left inside, here, Option.map_some, same]

end GrantSurvey.ClassFile
