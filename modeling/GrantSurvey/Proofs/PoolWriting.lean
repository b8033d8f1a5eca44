import GrantSurvey.ClassFile.Skim
import GrantSurvey.ClassFile.Strict
import GrantSurvey.Proofs.ReaderLaws
import GrantSurvey.Proofs.Utf8Text

/-!
# Writing the constant pool

Constants as they stand in a class file, with their tags and payloads. The two pool readers yield
the entries of what is written; they differ at most in the texts, and not where these are written
in plain UTF-8.
-/

namespace GrantSurvey.ClassFile

open BigEndian Reader

/-- A constant as it is written. The halves of a number of eight bytes are kept apart. -/
inductive Constant where
  | utf8 (bytes : List UInt8) (short : bytes.length < 65536)
  | integer (value : UInt32)
  | float (value : UInt32)
  | long (high low : UInt32)
  | double (high low : UInt32)
  | classRef (name : UInt16)
  | string (text : UInt16)
  | fieldRef (owner signature : UInt16)
  | methodRef (owner signature : UInt16)
  | interfaceMethodRef (owner signature : UInt16)
  | nameAndType (name descriptor : UInt16)
  | methodHandle (kind : UInt8) (reference : UInt16)
  | methodType (descriptor : UInt16)
  | dynamic (bootstrap signature : UInt16)
  | invokeDynamic (bootstrap signature : UInt16)
  | moduleName (name : UInt16)
  | packageName (name : UInt16)

namespace Constant

def bytes : Constant → List UInt8
  | utf8 bytes _ => 1 :: (bytes2 (UInt16.ofNat bytes.length) ++ bytes)
  | integer value => 3 :: bytes4 value
  | float value => 4 :: bytes4 value
  | long high low => 5 :: (bytes4 high ++ bytes4 low)
  | double high low => 6 :: (bytes4 high ++ bytes4 low)
  | classRef name => 7 :: bytes2 name
  | string text => 8 :: bytes2 text
  | fieldRef owner signature => 9 :: (bytes2 owner ++ bytes2 signature)
  | methodRef owner signature => 10 :: (bytes2 owner ++ bytes2 signature)
  | interfaceMethodRef owner signature => 11 :: (bytes2 owner ++ bytes2 signature)
  | nameAndType name descriptor => 12 :: (bytes2 name ++ bytes2 descriptor)
  | methodHandle kind reference => 15 :: kind :: bytes2 reference
  | methodType descriptor => 16 :: bytes2 descriptor
  | dynamic bootstrap signature => 17 :: (bytes2 bootstrap ++ bytes2 signature)
  | invokeDynamic bootstrap signature => 18 :: (bytes2 bootstrap ++ bytes2 signature)
  | moduleName name => 19 :: bytes2 name
  | packageName name => 20 :: bytes2 name

def entry (text : List UInt8 → String) : Constant → Entry
  | utf8 bytes _ => .utf8 (text bytes)
  | integer value => .integer value.toInt32
  | float _ => .other 4
  | long high low => .long (u8 high low).toInt64
  | double _ _ => .other 6
  | classRef name => .classRef name
  | string text => .string text
  | fieldRef _ _ => .other 9
  | methodRef owner signature => .methodRef owner signature
  | interfaceMethodRef owner signature => .methodRef owner signature
  | nameAndType name descriptor => .nameAndType name descriptor
  | methodHandle _ _ => .other 15
  | methodType _ => .other 16
  | dynamic _ _ => .other 17
  | invokeDynamic _ _ => .other 18
  | moduleName _ => .other 19
  | packageName _ => .other 20

def width : Constant → Nat
  | long _ _ | double _ _ => 2
  | _ => 1

def room : List Constant → Nat
  | [] => 0
  | constant :: constants => room constants + constant.width

def entries (text : List UInt8 → String) (constant : Constant) : List Entry :=
  constant.entry text :: List.replicate (constant.width - 1) .unused

def isStandard : Constant → Bool
  | utf8 bytes _ => bytes == Utf8.bytes (Utf8.textLossy bytes)
  | _ => true

theorem isWide_entry (text : List UInt8 → String) (constant : Constant) :
    (constant.entry text).isWide = true ↔ constant.width = 2 := by
  cases constant <;> simp [entry, Entry.isWide, width]

theorem length_entries (text : List UInt8 → String) (constant : Constant) :
    (constant.entries text).length = constant.width := by
  cases constant <;> rfl

/-- A constant is read as the entry that it becomes. -/
theorem yields (text : List UInt8 → String) (constant : Constant) :
    Yields (PoolReader.constant text) constant.bytes (.ok (constant.entry text)) := by
  cases constant with
  | utf8 bytes short =>
      refine (yields_u1 1).andThen ((yields_u2 _).andThen (yields_take ?_).andReturn)
      rw [UInt16.toNat_ofNat', Nat.mod_eq_of_lt short]
  | integer value => exact (yields_u1 3).andThen (yields_u4 value).andReturn
  | float value => exact (yields_u1 4).andThen (yields_skip (length_bytes4 value)).andReturn
  | long high low =>
      exact (yields_u1 5).andThen ((yields_u4 high).andThen (yields_u4 low).andReturn).andReturn
  | double high low =>
      exact (yields_u1 6).andThen ((yields_u4 high).andThen (yields_u4 low).andReturn).andReturn
  | classRef name => exact (yields_u1 7).andThen (yields_u2 name).andReturn
  | string text => exact (yields_u1 8).andThen (yields_u2 text).andReturn
  | fieldRef owner signature =>
      exact (yields_u1 9).andThen (yields_skip (length_pair _ signature)).andReturn
  | methodRef owner signature =>
      exact (yields_u1 10).andThen ((yields_u2 owner).andThen (yields_u2 signature).andReturn)
  | interfaceMethodRef owner signature =>
      exact (yields_u1 11).andThen ((yields_u2 owner).andThen (yields_u2 signature).andReturn)
  | nameAndType name descriptor =>
      exact (yields_u1 12).andThen ((yields_u2 name).andThen (yields_u2 descriptor).andReturn)
  | methodHandle kind reference =>
      have payload : (kind :: bytes2 reference).length = 3 := rfl
      exact (yields_u1 15).andThen (yields_skip payload).andReturn
  | methodType descriptor =>
      exact (yields_u1 16).andThen (yields_skip (length_bytes2 descriptor)).andReturn
  | dynamic bootstrap signature =>
      exact (yields_u1 17).andThen (yields_skip (length_pair _ signature)).andReturn
  | invokeDynamic bootstrap signature =>
      exact (yields_u1 18).andThen (yields_skip (length_pair _ signature)).andReturn
  | moduleName name => exact (yields_u1 19).andThen (yields_skip (length_bytes2 name)).andReturn
  | packageName name => exact (yields_u1 20).andThen (yields_skip (length_bytes2 name)).andReturn

end Constant

/-! ## Rows of constants -/

/-- A constant that takes one number, and then the others. -/
theorem yields_narrow {text : List UInt8 → String} {room : Nat} {entry : Entry}
    {bytes more : List UInt8} {entries : List Entry} (narrow : entry.isWide = false)
    (first : Yields (PoolReader.constant text) bytes (.ok entry))
    (others : Yields (PoolReader.constants text room) more (.ok entries)) :
    Yields (PoolReader.constants text (room + 1)) (bytes ++ more) (.ok (entry :: entries)) := by
  cases room with
  | zero =>
      -- The last number is read apart, so it has to be seen that nothing follows.
      have nothing := (pure_eq_ok_iff.mp (others 0 []))
      have ended : more = [] := by simpa using congrArg Cursor.rest nothing.2
      refine first.andThen ?_
      rw [narrow, ended, ← nothing.1]
      exact Yields.pure [entry]
  | succ room =>
      refine first.andThen ?_
      rw [narrow]
      exact others.andReturn

/-- A constant that takes two numbers, and then the others. -/
theorem yields_wide {text : List UInt8 → String} {room : Nat} {entry : Entry}
    {bytes more : List UInt8} {entries : List Entry} (wide : entry.isWide = true)
    (first : Yields (PoolReader.constant text) bytes (.ok entry))
    (others : Yields (PoolReader.constants text room) more (.ok entries)) :
    Yields (PoolReader.constants text (room + 2)) (bytes ++ more)
      (.ok (entry :: .unused :: entries)) := by
  refine first.andThen ?_
  rw [wide]
  exact others.andReturn

/-- A pool as it is written: as many numbers as its count says are taken by its constants. -/
structure PoolText where
  constants : List Constant
  fits : Constant.room constants + 1 < 65536

namespace PoolText

def room (pool : PoolText) : Nat :=
  Constant.room pool.constants

def bytes (pool : PoolText) : List UInt8 :=
  bytes2 (UInt16.ofNat (pool.room + 1)) ++ pool.constants.flatMap Constant.bytes

def entries (text : List UInt8 → String) (pool : PoolText) : ConstantPool :=
  ⟨(Entry.unused :: pool.constants.flatMap (Constant.entries text)).toArray⟩

def Standard (pool : PoolText) : Prop :=
  ∀ bytes short, Constant.utf8 bytes short ∈ pool.constants → ∃ text, bytes = Utf8.bytes text

/-- Texts in plain UTF-8 are those that survive being decoded. -/
theorem standard_iff (pool : PoolText) :
    pool.Standard ↔ pool.constants.all Constant.isStandard = true := by
  rw [List.all_eq_true]
  constructor
  · intro standard constant member
    cases constant with
    | utf8 bytes short =>
        obtain ⟨text, rfl⟩ := standard bytes short member
        rw [Constant.isStandard, Utf8.textLossy_bytes]
        exact beq_self_eq_true _
    | _ => rfl
  · intro checked bytes short member
    exact ⟨_, eq_of_beq (checked _ member)⟩

instance (pool : PoolText) : Decidable pool.Standard :=
  decidable_of_iff _ pool.standard_iff.symm

theorem toNat_count (pool : PoolText) :
    (UInt16.ofNat (pool.room + 1)).toNat = pool.room + 1 := by
  have fits : pool.room + 1 < 65536 := pool.fits
  rw [UInt16.toNat_ofNat', Nat.mod_eq_of_lt fits]

theorem yields_constants (text : List UInt8 → String) (constants : List Constant) :
    Yields (PoolReader.constants text (Constant.room constants))
      (constants.flatMap Constant.bytes) (.ok (constants.flatMap (Constant.entries text))) := by
  induction constants with
  | nil => exact Yields.pure []
  | cons constant constants ih =>
      rw [Constant.room, List.flatMap_cons, List.flatMap_cons]
      by_cases wide : constant.width = 2
      · rw [Constant.entries, wide]
        exact yields_wide ((constant.isWide_entry text).mpr wide) (constant.yields text) ih
      · have one : constant.width = 1 := by
          cases constant <;> first | rfl | exact absurd rfl wide
        have narrow : (constant.entry text).isWide = false := by
          rw [← Bool.not_eq_true, constant.isWide_entry text]
          exact wide
        rw [Constant.entries, one]
        exact yields_narrow narrow (constant.yields text) ih

/-- The skimming reader yields the pool that is written. -/
theorem yields_skim (pool : PoolText) :
    Yields Skim.pool pool.bytes (.ok (pool.entries Utf8.textLossy)) := by
  refine (yields_u2 _).andThen ?_
  rw [pool.toNat_count, Nat.add_sub_cancel]
  exact (yields_constants Utf8.textLossy pool.constants).andReturn

theorem length_entries (text : List UInt8 → String) (constants : List Constant) :
    (constants.flatMap (Constant.entries text)).length = Constant.room constants := by
  induction constants with
  | nil => rfl
  | cons constant constants ih =>
      rw [List.flatMap_cons, List.length_append, ih, constant.length_entries, Constant.room,
        Nat.add_comm]

/-- The strict reader yields the pool that is written. -/
theorem yields_strict (pool : PoolText) :
    Yields Strict.pool pool.bytes (.ok (pool.entries ModifiedUtf8.classText)) := by
  have all : (Entry.unused :: pool.constants.flatMap
      (Constant.entries ModifiedUtf8.classText)).length ≤ pool.room + 1 :=
    Nat.le_of_eq (by rw [List.length_cons, length_entries, room])
  refine (yields_u2 _).andThen ?_
  rw [pool.toNat_count, Nat.add_sub_cancel, entries, ← List.take_of_length_le all]
  exact (yields_constants ModifiedUtf8.classText pool.constants).andReturn

/-- Texts in plain UTF-8 are decoded alike. -/
theorem Standard.entries_eq {pool : PoolText} (standard : pool.Standard) :
    pool.entries Utf8.textLossy = pool.entries ModifiedUtf8.classText := by
  have same : ∀ constant ∈ pool.constants,
      constant.entries Utf8.textLossy = constant.entries ModifiedUtf8.classText := by
    intro constant member
    cases constant with
    | utf8 bytes short =>
        obtain ⟨text, rfl⟩ := standard bytes short member
        simp only [Constant.entries, Constant.entry, Utf8.textLossy_bytes,
          ModifiedUtf8.classText_bytes]
    | _ => rfl
  rw [PoolText.entries, PoolText.entries, List.flatMap_congr same]

end PoolText

end GrantSurvey.ClassFile
