import GrantSurvey.Json.Parser
import GrantSurvey.Proofs.Outcome
import Mathlib.Data.List.TakeWhile

/-!
# Indented texts tell values apart

The indented text of a JSON value determines the value, and not only when it stands alone: where the
texts of two values start at one place of a text, the values are equal and end at one place. Every
value starts with a character that tells its kind. Strings end at the first quote that is not
escaped, arrays and objects at their brackets, and numbers where a comma or the end of the line
follows.
-/

namespace GrantSurvey.Json

open Outcome

/-! ## Strings -/

theorem hexDigit?_digitChar : ∀ digit < 16, Text.hexDigit? (Nat.digitChar digit) = some digit := by
  decide

namespace Parser

theorem numberEscape_control {char : Char} (control : char.toNat < 32) (text : List Char) :
    numberEscape ('0' :: '0' :: Nat.digitChar (char.toNat / 16) ::
      Nat.digitChar (char.toNat % 16) :: text) = .ok (char, 4) := by
  have zero : Text.hexDigit? '0' = some 0 := rfl
  have high := hexDigit?_digitChar (char.toNat / 16) (by omega)
  have low := hexDigit?_digitChar (char.toNat % 16) (by omega)
  have whole : ((0 * 16 + 0) * 16 + char.toNat / 16) * 16 + char.toNat % 16 = char.toNat := by
    omega
  simp only [numberEscape, hexNumber?, zero, high, low, Option.bind_eq_bind, Option.bind_some,
    Option.pure_def, whole]
  rw [if_neg (by simp; omega), if_neg (by simp; omega), Char.ofNat_toNat]

/-- A written character is read back. -/
theorem stringRest_escapedChar (char : Char) {text chars rest : List Char}
    (read : stringRest text = .ok (chars, rest)) :
    stringRest ((escapedChar char).toList ++ text) = .ok (char :: chars, rest) := by
  unfold escapedChar
  split_ifs with _ _ _ _ _ _ _ control
  -- Seven characters have an escape of their own.
  iterate 7 · simp_all [stringRest, shortEscape?]
  · simp [stringRest, numberEscape_control control, read]
  · simp_all [stringRest]

theorem stringRest_escaped (chars rest : List Char) :
    stringRest (chars.flatMap (fun char => (escapedChar char).toList) ++ '"' :: rest) =
      .ok (chars, rest) := by
  induction chars with
  | nil => simp [stringRest]
  | cons char chars ih =>
      rw [List.flatMap_cons, List.append_assoc]
      exact stringRest_escapedChar char ih

end Parser

theorem toList_quoted (text : String) :
    (quoted text).toList =
      '"' :: (text.toList.flatMap (fun char => (escapedChar char).toList) ++ ['"']) := by
  simp [quoted, String.toList_join, List.flatMap, Function.comp_def]

/-- A text between quotes determines the text and where it ends. -/
theorem quoted_append_inj {text other : String} {rest more : List Char}
    (same : (quoted text).toList ++ rest = (quoted other).toList ++ more) :
    text = other ∧ rest = more := by
  simp only [toList_quoted, List.cons_append, List.append_assoc, List.nil_append,
    List.cons.injEq, true_and] at same
  have read := Parser.stringRest_escaped text.toList rest
  rw [same, Parser.stringRest_escaped] at read
  simp only [Except.ok.injEq, Prod.mk.injEq, String.toList_inj] at read
  exact ⟨read.1.symm, read.2.symm⟩

/-! ## Numbers -/

def isNumeralChar (char : Char) : Bool :=
  char == '-' || char.isDigit

structure Numeral (text : String) : Prop where
  nonempty : text.toList ≠ []
  plain : ∀ char ∈ text.toList, isNumeralChar char = true

/-- What may follow a value: nothing, a comma, or the end of the line. -/
def Ends (rest : List Char) : Prop :=
  ∀ char ∈ rest.head?, char = ',' ∨ char = '\n'

theorem Ends.takeWhile_eq_nil {rest : List Char} (ends : Ends rest) :
    rest.takeWhile isNumeralChar = [] := by
  cases rest with
  | nil => rfl
  | cons char rest =>
      obtain rfl | rfl := ends char rfl <;> rfl

theorem Numeral.append_inj {text other : String} (numeral : Numeral text)
    (numeral' : Numeral other) {rest more : List Char} (ends : Ends rest) (ends' : Ends more)
    (same : text.toList ++ rest = other.toList ++ more) : text = other ∧ rest = more := by
  have front := congrArg (List.takeWhile isNumeralChar) same
  rw [List.takeWhile_append_of_pos numeral.plain, List.takeWhile_append_of_pos numeral'.plain,
    ends.takeWhile_eq_nil, ends'.takeWhile_eq_nil, List.append_nil, List.append_nil] at front
  rw [front] at same
  exact ⟨String.toList_inj.mp front, List.append_cancel_left same⟩

theorem numeral_natRepr (number : Nat) : Numeral number.repr where
  nonempty := by
    rw [Nat.toList_repr]
    exact Nat.toDigits_ne_nil
  plain char member := by
    rw [Nat.toList_repr] at member
    simp [isNumeralChar, Nat.isDigit_of_mem_toDigits (by omega) (by omega) member]

theorem numeral_intRepr (number : Int) : Numeral number.repr := by
  rw [Int.repr_eq_if]
  split
  · exact numeral_natRepr _
  · refine ⟨by simp, fun char member => ?_⟩
    simp only [String.toList_append, List.mem_append] at member
    obtain sign | digit := member
    · simp_all [isNumeralChar]
    · exact (numeral_natRepr _).plain char digit

/-! ## Brackets -/

/-- Where the texts of two values start at one place, the values are equal and end at one place. -/
def Tells {α : Type} (write : α → String) (first second : α) : Prop :=
  ∀ rest more : List Char, Ends rest → Ends more →
    (write first).toList ++ rest = (write second).toList ++ more → first = second ∧ rest = more

/-- What stands between brackets after the first part, with the closing bracket. -/
def followingParts (closing : String) (depth : Nat) : List String → List Char
  | [] => (lineStart depth).toList ++ closing.toList
  | part :: parts =>
      ',' :: ((lineStart (depth + 1)).toList ++ (part.toList ++ followingParts closing depth parts))

theorem toList_lineStart (depth : Nat) :
    (lineStart depth).toList = '\n' :: List.replicate (2 * depth) ' ' := by
  simp [lineStart]

theorem toList_intercalate_lines (closing : String) (depth : Nat) (part : String)
    (parts : List String) :
    (",".intercalate ((part :: parts).map (lineStart (depth + 1) ++ ·))).toList
        ++ ((lineStart depth).toList ++ closing.toList) =
      (lineStart (depth + 1)).toList ++ (part.toList ++ followingParts closing depth parts) := by
  induction parts generalizing part with
  | nil => simp [followingParts]
  | cons next parts ih =>
      rw [List.map_cons, List.map_cons, String.intercalate_cons_cons, ← List.map_cons]
      simp only [String.toList_append, List.append_assoc, ih]
      simp [followingParts]

theorem toList_bracketed_cons (opening closing : String) (depth : Nat) (part : String)
    (parts : List String) :
    (bracketed opening closing depth (part :: parts)).toList =
      opening.toList ++ ((lineStart (depth + 1)).toList ++
        (part.toList ++ followingParts closing depth parts)) := by
  rw [← toList_intercalate_lines]
  simp only [bracketed, List.isEmpty_cons, Bool.false_eq_true, if_false, String.toList_append,
    List.append_assoc]

theorem ends_followingParts (closing : String) (depth : Nat) (parts : List String)
    (rest : List Char) : Ends (followingParts closing depth parts ++ rest) := by
  intro char starts
  cases parts with
  | nil =>
      simp only [followingParts, toList_lineStart, List.cons_append, List.head?_cons,
        Option.mem_some_iff] at starts
      exact .inr starts.symm
  | cons part parts =>
      simp only [followingParts, List.cons_append, List.head?_cons, Option.mem_some_iff] at starts
      exact .inl starts.symm

section Parts

variable {α : Type} {write : α → String} {items others : List α} {closing : String} {depth : Nat}
  {rest more : List Char}

theorem Tells.part {item other : α} {parts parts' : List String} (tells : Tells write item other)
    (same : (write item).toList ++ (followingParts closing depth parts ++ rest) =
      (write other).toList ++ (followingParts closing depth parts' ++ more)) :
    item = other ∧
      followingParts closing depth parts ++ rest = followingParts closing depth parts' ++ more :=
  tells _ _ (ends_followingParts _ _ _ _) (ends_followingParts _ _ _ _) same

theorem followingParts_append_inj
    (tells : ∀ item ∈ items, ∀ other ∈ others, Tells write item other)
    (same : followingParts closing depth (items.map write) ++ rest =
      followingParts closing depth (others.map write) ++ more) :
    items = others ∧ rest = more := by
  induction items generalizing others with
  | nil =>
      cases others with
      | nil => exact ⟨rfl, List.append_cancel_left same⟩
      | cons other others => simp [followingParts, toList_lineStart] at same
  | cons item items ih =>
      cases others with
      | nil => simp [followingParts, toList_lineStart] at same
      | cons other others =>
          simp only [List.map_cons, followingParts, List.cons_append, List.append_assoc,
            List.cons.injEq, List.append_cancel_left_eq, true_and] at same
          obtain ⟨rfl, behind⟩ := (tells item List.mem_cons_self other List.mem_cons_self).part same
          obtain ⟨rfl, last⟩ := ih (fun item member other member' =>
            tells item (List.mem_cons_of_mem _ member) other (List.mem_cons_of_mem _ member')) behind
          exact ⟨rfl, last⟩

/-- Parts in brackets determine the parts and where the closing bracket stands. -/
theorem bracketed_append_inj {opening : String} {bracket : Char} (closes : closing.toList = [bracket])
    (visible : bracket ≠ '\n') (tells : ∀ item ∈ items, ∀ other ∈ others, Tells write item other)
    (same : (bracketed opening closing depth (items.map write)).toList ++ rest =
      (bracketed opening closing depth (others.map write)).toList ++ more) :
    items = others ∧ rest = more := by
  cases items with
  | nil =>
      cases others with
      | nil => exact ⟨rfl, List.append_cancel_left same⟩
      | cons other others =>
          rw [List.map_cons, toList_bracketed_cons] at same
          simp [bracketed, closes, toList_lineStart, visible] at same
  | cons item items =>
      cases others with
      | nil =>
          rw [List.map_cons, toList_bracketed_cons] at same
          simp [bracketed, closes, toList_lineStart, visible.symm] at same
      | cons other others =>
          simp only [List.map_cons, toList_bracketed_cons, List.append_assoc,
            List.append_cancel_left_eq] at same
          obtain ⟨rfl, behind⟩ := (tells item List.mem_cons_self other List.mem_cons_self).part same
          obtain ⟨rfl, last⟩ := followingParts_append_inj (fun item member other member' =>
            tells item (List.mem_cons_of_mem _ member) other (List.mem_cons_of_mem _ member')) behind
          exact ⟨rfl, last⟩

end Parts

/-! ## Values -/

def memberText (depth : Nat) (member : String × Json) : String :=
  quoted member.1 ++ ": " ++ prettyAt depth member.2

theorem prettyItems_eq (depth : Nat) (items : List Json) :
    prettyItems depth items = items.map (prettyAt depth) := by
  induction items with
  | nil => rfl
  | cons item items ih => rw [prettyItems, ih, List.map_cons]

theorem prettyMembers_eq (depth : Nat) (members : List (String × Json)) :
    prettyMembers depth members = members.map (memberText depth) := by
  induction members with
  | nil => rfl
  | cons member members ih => rw [prettyMembers, ih, List.map_cons, memberText]

theorem Tells.member {depth : Nat} {first second : String × Json}
    (tells : Tells (prettyAt depth) first.2 second.2) : Tells (memberText depth) first second := by
  intro rest more ends ends' same
  simp only [memberText, String.toList_append, List.append_assoc] at same
  obtain ⟨name, same⟩ := quoted_append_inj same
  obtain ⟨value, same⟩ := tells rest more ends ends' (List.append_cancel_left same)
  exact ⟨Prod.ext name value, same⟩

inductive Proper : Json → Prop where
  | null : Proper .null
  | bool (value : Bool) : Proper (.bool value)
  | number {text : String} (numeral : Numeral text) : Proper (.number text)
  | string (value : String) : Proper (.string value)
  | array {items : List Json} (all : ∀ item ∈ items, Proper item) : Proper (.array items)
  | object {members : List (String × Json)} (all : ∀ member ∈ members, Proper member.2) :
      Proper (.object members)

inductive Kind where
  | null
  | bool
  | number
  | string
  | array
  | object
  deriving DecidableEq, Repr

def kind : Json → Kind
  | .null => .null
  | .bool _ => .bool
  | .number _ => .number
  | .string _ => .string
  | .array _ => .array
  | .object _ => .object

def Kind.ofChar (char : Char) : Kind :=
  if char = 'n' then .null
  else if char = 't' then .bool
  else if char = 'f' then .bool
  else if char = '"' then .string
  else if char = '[' then .array
  else if char = '\x7b' then .object
  else .number

theorem ofChar_of_isNumeralChar {char : Char} (plain : isNumeralChar char = true) :
    Kind.ofChar char = .number := by
  unfold Kind.ofChar
  iterate 6 rw [if_neg (by rintro rfl; exact absurd plain (by decide))]

theorem exists_bracketed_cons (opening : Char) (opens closing : String) (depth : Nat)
    (parts : List String) (starts : opens.toList = [opening]) :
    ∃ tail, (bracketed opens closing depth parts).toList = opening :: tail := by
  cases parts with
  | nil => exact ⟨closing.toList, by simp [bracketed, starts]⟩
  | cons part parts => exact ⟨_, by rw [toList_bracketed_cons, starts]; rfl⟩

/-- The first character of a value's text tells the kind of the value. -/
theorem Proper.exists_cons {value : Json} (proper : value.Proper) (depth : Nat) :
    ∃ char tail, (prettyAt depth value).toList = char :: tail ∧ Kind.ofChar char = value.kind := by
  cases proper with
  | null => exact ⟨'n', ['u', 'l', 'l'], by simp [prettyAt], rfl⟩
  | bool value =>
      cases value with
      | true => exact ⟨'t', ['r', 'u', 'e'], by simp [prettyAt], rfl⟩
      | false => exact ⟨'f', ['a', 'l', 's', 'e'], by simp [prettyAt], rfl⟩
  | number numeral =>
      rename_i text
      obtain ⟨char, tail, starts⟩ := List.exists_cons_of_ne_nil numeral.nonempty
      have plain := numeral.plain char (by rw [starts]; exact List.mem_cons_self)
      exact ⟨char, tail, by rw [prettyAt, starts], ofChar_of_isNumeralChar plain⟩
  | string value => exact ⟨'"', _, by rw [prettyAt, toList_quoted], rfl⟩
  | array all =>
      obtain ⟨tail, starts⟩ := exists_bracketed_cons '[' "[" "]" depth _ rfl
      exact ⟨'[', tail, by rw [prettyAt, starts], rfl⟩
  | object all =>
      obtain ⟨tail, starts⟩ := exists_bracketed_cons '\x7b' "\x7b" "\x7d" depth _ rfl
      exact ⟨'\x7b', tail, by rw [prettyAt, starts], rfl⟩

theorem kind_eq {first second : Json} (proper : first.Proper) (proper' : second.Proper)
    {depth : Nat} {rest more : List Char}
    (same : (prettyAt depth first).toList ++ rest = (prettyAt depth second).toList ++ more) :
    first.kind = second.kind := by
  obtain ⟨char, tail, starts, kind⟩ := proper.exists_cons depth
  obtain ⟨char', tail', starts', kind'⟩ := proper'.exists_cons depth
  rw [starts, starts', List.cons_append, List.cons_append, List.cons.injEq] at same
  rw [← kind, ← kind', same.1]

theorem tells_of_kind_eq {first second : Json} (proper : first.Proper) (proper' : second.Proper)
    {depth : Nat} (tells : first.kind = second.kind → Tells (prettyAt depth) first second) :
    Tells (prettyAt depth) first second :=
  fun rest more ends ends' same => tells (kind_eq proper proper' same) rest more ends ends' same

/-- The text of a value tells it from any other value. -/
theorem Proper.tells {first second : Json} (proper : first.Proper) (proper' : second.Proper)
    (depth : Nat) : Tells (prettyAt depth) first second := by
  refine tells_of_kind_eq proper proper' fun kinds => ?_
  induction proper generalizing second depth with
  | null =>
      cases proper' with
      | null => exact fun rest more _ _ same => ⟨rfl, List.append_cancel_left same⟩
      | _ => cases kinds
  | bool value =>
      cases proper' with
      | bool other =>
          intro rest more _ _ same
          cases value <;> cases other <;> simp_all [prettyAt]
      | _ => cases kinds
  | number numeral =>
      cases proper' with
      | number numeral' =>
          intro rest more ends ends' same
          rw [prettyAt, prettyAt] at same
          obtain ⟨rfl, behind⟩ := numeral.append_inj numeral' ends ends' same
          exact ⟨rfl, behind⟩
      | _ => cases kinds
  | string value =>
      cases proper' with
      | string other =>
          intro rest more _ _ same
          rw [prettyAt, prettyAt] at same
          obtain ⟨rfl, behind⟩ := quoted_append_inj same
          exact ⟨rfl, behind⟩
      | _ => cases kinds
  | @array items all ih =>
      cases proper' with
      | @array others all' =>
          intro rest more _ _ same
          rw [prettyAt, prettyAt, prettyItems_eq, prettyItems_eq] at same
          have inside : ∀ item ∈ items, ∀ other ∈ others,
              Tells (prettyAt (depth + 1)) item other := fun item member other member' =>
            tells_of_kind_eq (all item member) (all' other member')
              (ih item member (all' other member') (depth + 1))
          obtain ⟨rfl, behind⟩ := bracketed_append_inj rfl (by decide) inside same
          exact ⟨rfl, behind⟩
      | _ => cases kinds
  | @object members all ih =>
      cases proper' with
      | @object others all' =>
          intro rest more _ _ same
          rw [prettyAt, prettyAt, prettyMembers_eq, prettyMembers_eq] at same
          have inside : ∀ item ∈ members, ∀ other ∈ others,
              Tells (memberText (depth + 1)) item other := fun item member other member' =>
            .member (tells_of_kind_eq (all item member) (all' other member')
              (ih item member (all' other member') (depth + 1)))
          obtain ⟨rfl, behind⟩ := bracketed_append_inj rfl (by decide) inside same
          exact ⟨rfl, behind⟩
      | _ => cases kinds

end GrantSurvey.Json
