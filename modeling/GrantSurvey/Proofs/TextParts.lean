import GrantSurvey.Text.Decimal
import Mathlib.Data.List.TakeWhile
import Mathlib.Data.Nat.Digits.Defs

/-!
# Parts of texts

A text is cut at the first place where a divider stands. A part may be a decimal number.
-/

namespace GrantSurvey.Text

/-! ## Cutting -/

/-- A text is cut at a divider if what is taken before the divider does not hold it. -/
theorem cut_iff {divider : Char} {text front rest : List Char} :
    (text.takeWhile (· != divider) = front ∧ front.length < text.length ∧
        text.drop (front.length + 1) = rest) ↔
      divider ∉ front ∧ text = front ++ divider :: rest := by
  constructor
  · rintro ⟨taken, shorter, rfl⟩
    have parts := text.takeWhile_append_dropWhile (p := (· != divider))
    rw [taken] at parts
    constructor
    · intro member
      rw [← taken] at member
      simpa using List.mem_takeWhile_imp member
    · -- The text does not end before the divider, so what is left starts with it.
      cases behind : text.dropWhile (· != divider) with
      | nil =>
          rw [behind, List.append_nil] at parts
          exact absurd (congrArg List.length parts) (Nat.ne_of_lt shorter)
      | cons char rest =>
          have stops := List.head?_dropWhile_not (· != divider) text
          simp only [behind, List.head?_cons, bne_eq_false_iff_eq] at stops
          rw [behind, stops] at parts
          rw [← parts, List.drop_length_add_append]
          rfl
  · rintro ⟨clean, rfl⟩
    have passed : ∀ char ∈ front, (char != divider) = true := by
      intro char member
      rw [bne_iff_ne]
      rintro rfl
      exact clean member
    refine ⟨?_, ?_, ?_⟩
    · rw [List.takeWhile_append_of_pos passed]
      simp
    · rw [List.length_append, List.length_cons]
      omega
    · rw [List.drop_length_add_append]
      rfl

/-! ## Decimal numbers -/

def digitValue (digit : Char) : Nat :=
  digit.toNat - '0'.toNat

/-- A text consists of decimal digits, at least one, and their value has 64 bits. -/
structure Decimal (text : List Char) (value : Nat) : Prop where
  nonempty : text ≠ []
  digits : ∀ char ∈ text, char.isDigit = true
  value_eq : Nat.ofDigits 10 (text.reverse.map digitValue) = value
  fits : value < 18446744073709551616

/-- A text stands for a number: digits, which a plus sign may precede. -/
inductive Numeral : List Char → Nat → Prop where
  | plain {text : List Char} {value : Nat} (decimal : Decimal text value) : Numeral text value
  | signed {text : List Char} {value : Nat} (decimal : Decimal text value) :
      Numeral ('+' :: text) value

theorem digitsValue_eq (digits : List Char) :
    digitsValue digits = Nat.ofDigits 10 (digits.reverse.map digitValue) := by
  rw [Nat.ofDigits_eq_foldr, List.foldr_map, List.foldr_reverse, digitsValue]
  congr 1
  funext value digit
  rw [digitValue, Nat.cast_id, Nat.mul_comm, Nat.add_comm]

theorem decimal_iff {text : List Char} {value : Nat} :
    (if text.isEmpty || !text.all Char.isDigit then none
      else if digitsValue text < 18446744073709551616 then some (digitsValue text)
      else none) = some value ↔ Decimal text value := by
  constructor
  · intro reads
    split at reads
    · cases reads
    · rename_i digits
      simp only [Bool.or_eq_true, List.isEmpty_iff, Bool.not_eq_true', not_or,
        Bool.not_eq_false, List.all_eq_true] at digits
      split at reads
      · rename_i fits
        cases reads
        exact ⟨digits.1, digits.2, (digitsValue_eq text).symm, fits⟩
      · cases reads
  · rintro ⟨nonempty, digits, rfl, fits⟩
    rw [← digitsValue_eq] at fits ⊢
    have decimal : ¬ (text.isEmpty || !text.all Char.isDigit) = true := by
      simpa [nonempty] using digits
    rw [if_neg decimal, if_pos fits]

/-- Numbers are read exactly as they are written. -/
theorem unsigned?_eq_some_iff {text : List Char} {value : Nat} :
    unsigned? text = some value ↔ Numeral text value := by
  unfold unsigned?
  simp only
  split
  · rename_i digits
    rw [decimal_iff]
    constructor
    · exact .signed
    · intro numeral
      cases numeral with
      | plain decimal => exact absurd (decimal.digits '+' List.mem_cons_self) (by decide)
      | signed decimal => exact decimal
  · rename_i unsigned
    rw [decimal_iff]
    constructor
    · exact .plain
    · intro numeral
      cases numeral with
      | plain decimal => exact decimal
      | signed => exact absurd rfl (unsigned _)

end GrantSurvey.Text
