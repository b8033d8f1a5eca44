import GrantSurvey.ClassFile.Cursor

/-!
# Big-endian numbers

Writing a number as bytes and reading it back are inverse to each other.
-/

namespace GrantSurvey.BigEndian

theorem toNat_u2 (a b : UInt8) : (u2 a b).toNat = a.toNat * 256 + b.toNat := by
  have := a.toNat_lt
  have := b.toNat_lt
  rw [u2, UInt16.toNat_ofNat', Nat.mod_eq_of_lt]
  omega

theorem toNat_u4 (a b c d : UInt8) :
    (u4 a b c d).toNat = ((a.toNat * 256 + b.toNat) * 256 + c.toNat) * 256 + d.toNat := by
  have := a.toNat_lt
  have := b.toNat_lt
  have := c.toNat_lt
  have := d.toNat_lt
  rw [u4, UInt32.toNat_ofNat', Nat.mod_eq_of_lt]
  omega

/-- Two bytes are those of the number that they stand for. -/
theorem bytes2_u2 (a b : UInt8) : bytes2 (u2 a b) = [a, b] := by
  have := a.toNat_lt
  have := b.toNat_lt
  simp only [bytes2, toNat_u2, List.cons.injEq, ← UInt8.toNat_inj, UInt8.toNat_ofNat', and_true]
  omega

/-- The bytes of a number stand for that number. -/
theorem exists_bytes2 (value : UInt16) : ∃ a b, bytes2 value = [a, b] ∧ u2 a b = value := by
  refine ⟨_, _, rfl, ?_⟩
  have := value.toNat_lt
  simp only [← UInt16.toNat_inj, toNat_u2, UInt8.toNat_ofNat']
  omega

/-- Four bytes are those of the number that they stand for. -/
theorem bytes4_u4 (a b c d : UInt8) : bytes4 (u4 a b c d) = [a, b, c, d] := by
  have := a.toNat_lt
  have := b.toNat_lt
  have := c.toNat_lt
  have := d.toNat_lt
  simp only [bytes4, toNat_u4, List.cons.injEq, ← UInt8.toNat_inj, UInt8.toNat_ofNat', and_true]
  omega

/-- Any two bytes are those of a number. -/
theorem exists_of_length_two {bytes : List UInt8} (two : bytes.length = 2) :
    ∃ value, bytes = bytes2 value := by
  match bytes, two with
  | [a, b], _ => exact ⟨u2 a b, (bytes2_u2 a b).symm⟩

/-- The bytes of a number stand for that number. -/
theorem exists_bytes4 (value : UInt32) :
    ∃ a b c d, bytes4 value = [a, b, c, d] ∧ u4 a b c d = value := by
  refine ⟨_, _, _, _, rfl, ?_⟩
  have := value.toNat_lt
  simp only [← UInt32.toNat_inj, toNat_u4, UInt8.toNat_ofNat']
  omega

@[simp]
theorem length_bytes2 (value : UInt16) : (bytes2 value).length = 2 := rfl

theorem length_pair (first second : UInt16) : (bytes2 first ++ bytes2 second).length = 4 := rfl

theorem exists_of_length_four {bytes : List UInt8} (four : bytes.length = 4) :
    ∃ first second, bytes = bytes2 first ++ bytes2 second := by
  match bytes, four with
  | [a, b, c, d], _ =>
      refine ⟨u2 a b, u2 c d, ?_⟩
      rw [bytes2_u2, bytes2_u2]
      rfl

@[simp]
theorem length_bytes4 (value : UInt32) : (bytes4 value).length = 4 := rfl

theorem bytes4_injective {first second : UInt32} (same : bytes4 first = bytes4 second) :
    first = second := by
  obtain ⟨a, b, c, d, written, value⟩ := exists_bytes4 first
  obtain ⟨a', b', c', d', written', value'⟩ := exists_bytes4 second
  rw [written, written'] at same
  simp only [List.cons.injEq, and_true] at same
  obtain ⟨rfl, rfl, rfl, rfl⟩ := same
  exact value.symm.trans value'

end GrantSurvey.BigEndian
