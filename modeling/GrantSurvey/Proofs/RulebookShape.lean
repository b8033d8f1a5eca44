import GrantSurvey.Rulebook.Schema
import Mathlib.Data.List.Forall2

/-!
# The schema of rulebook files

A schema is a list of keywords. Each keyword restricts the values of one type and lets all others
pass, and a value satisfies the schema if it passes every keyword. The schema of rulebook files is
written down here keyword by keyword. The check of a file finds nothing wrong with a value exactly
if the value satisfies that schema.
-/

namespace GrantSurvey.Rulebook

/-! ## Patterns -/

/-- A piece of a pattern: one character of a class, or any number of them. -/
inductive Piece where
  | one (allowed : Char → Prop)
  | many (allowed : Char → Prop)

/-- The texts that a pattern matches from their first to their last character. -/
inductive Matches : List Piece → List Char → Prop where
  | nil : Matches [] []
  | one {allowed : Char → Prop} {pieces : List Piece} {char : Char} {text : List Char}
      (fits : allowed char) (rest : Matches pieces text) :
      Matches (.one allowed :: pieces) (char :: text)
  | stop {allowed : Char → Prop} {pieces : List Piece} {text : List Char}
      (rest : Matches pieces text) : Matches (.many allowed :: pieces) text
  | more {allowed : Char → Prop} {pieces : List Piece} {char : Char} {text : List Char}
      (fits : allowed char) (rest : Matches (.many allowed :: pieces) text) :
      Matches (.many allowed :: pieces) (char :: text)

theorem matches_nil_iff {text : List Char} : Matches [] text ↔ text = [] := by
  constructor
  · intro found
    cases found
    rfl
  · rintro rfl
    exact .nil

theorem matches_one_iff {allowed : Char → Prop} {pieces : List Piece} {text : List Char} :
    Matches (.one allowed :: pieces) text ↔
      ∃ char rest, text = char :: rest ∧ allowed char ∧ Matches pieces rest := by
  constructor
  · intro found
    cases found with
    | one fits rest => exact ⟨_, _, rfl, fits, rest⟩
  · rintro ⟨char, rest, rfl, fits, found⟩
    exact .one fits found

theorem matches_many_iff {allowed : Char → Prop} {pieces : List Piece} {text : List Char} :
    Matches (.many allowed :: pieces) text ↔
      ∃ front rest, text = front ++ rest ∧ (∀ char ∈ front, allowed char) ∧
        Matches pieces rest := by
  constructor
  · intro found
    generalize same : Piece.many allowed :: pieces = whole at found
    induction found with
    | nil => cases same
    | one => cases same
    | stop rest =>
        cases same
        exact ⟨[], _, rfl, List.forall_mem_nil _, rest⟩
    | more fits _ ih =>
        cases same
        obtain ⟨front, rest, rfl, all, found⟩ := ih rfl
        exact ⟨_ :: front, rest, rfl, List.forall_mem_cons.mpr ⟨fits, all⟩, found⟩
  · rintro ⟨front, rest, rfl, all, found⟩
    induction front with
    | nil => exact .stop found
    | cons char front ih =>
        obtain ⟨fits, all⟩ := List.forall_mem_cons.mp all
        exact .more fits (ih all)

/-! ## Keywords -/

/-- A condition on values, as a keyword or a whole schema states it. -/
abbrev Shape := Json → Prop

namespace Shape

def isText : Shape := fun value => ∃ text, value = .string text

def isList : Shape := fun value => ∃ items, value = .array items

def isObject : Shape := fun value => ∃ members, value = .object members

def minLength (least : Nat) : Shape := fun value =>
  ∀ text, value = .string text → least ≤ text.toList.length

def pattern (pieces : List Piece) : Shape := fun value =>
  ∀ text, value = .string text → Matches pieces text.toList

def minItems (least : Nat) : Shape := fun value =>
  ∀ items, value = .array items → least ≤ items.length

def items (shape : Shape) : Shape := fun value =>
  ∀ items, value = .array items → ∀ item ∈ items, shape item

def required (names : List String) : Shape := fun value =>
  ∀ members, value = .object members → ∀ name ∈ names, name ∈ members.map (·.1)

def properties (shapes : List (String × Shape)) : Shape := fun value =>
  ∀ members, value = .object members → ∀ member ∈ members, ∀ shape,
    shapes.lookup member.1 = some shape → shape member.2

def noOther (names : List String) : Shape := fun value =>
  ∀ members, value = .object members → ∀ member ∈ members, member.1 ∈ names

def oneOf (first second : Shape) : Shape := fun value =>
  first value ∧ ¬ second value ∨ ¬ first value ∧ second value

def all (keywords : List Shape) : Shape := fun value =>
  ∀ keyword ∈ keywords, keyword value

@[simp]
theorem all_nil (value : Json) : all [] value := List.forall_mem_nil _

@[simp]
theorem all_cons {keyword : Shape} {keywords : List Shape} {value : Json} :
    all (keyword :: keywords) value ↔ keyword value ∧ all keywords value :=
  List.forall_mem_cons

/-- An object with required members, and with no members but those that have a schema. -/
def record (names : List String) (shapes : List (String × Shape)) : Shape :=
  all [isObject, required names, properties shapes, noOther (shapes.map (·.1))]

/-! ## The schema -/

/-- One or more characters other than a period, a semicolon and an opening bracket. -/
def ownerPattern : List Piece :=
  let plain := fun char => char ≠ '.' ∧ char ≠ ';' ∧ char ≠ '['
  [.one plain, .many plain]

/-- An opening parenthesis, anything, a closing one, and then at least one character, all on one
line. -/
def descriptorPattern : List Piece :=
  let plain := fun char => char ≠ '\n'
  [.one (· = '('), .many plain, .one (· = ')'), .one plain, .many plain]

def target : Shape :=
  oneOf (record ["literal"] [("literal", isText)])
    (record ["substitute"] [("substitute",
      record ["pattern", "wildcard"] [("pattern", isText), ("wildcard", isText)])])

def permission : Shape :=
  record ["kind", "target"]
    [("kind", all [isText, minLength 1]), ("target", target), ("actions", isText)]

def entry : Shape :=
  record ["owner", "name", "permissions"]
    [("owner", all [isText, pattern ownerPattern]), ("name", all [isText, minLength 1]),
      ("descriptor", all [isText, pattern descriptorPattern]),
      ("permissions", all [isList, minItems 1, items permission])]

def file : Shape :=
  record ["entries"] [("entries", all [isList, items entry])]

end Shape

/-! ## The checks -/

namespace Schema

open Shape

/-- A check finds nothing wrong exactly with the values that satisfy a schema. -/
def Accepts (check : Check) (shape : Shape) : Prop :=
  ∀ value, check value = [] ↔ shape value

theorem accepts_text : Accepts text isText := by
  intro value
  cases value with
  | string value => exact iff_of_true rfl ⟨value, rfl⟩
  | _ => simp [text, isText]

theorem accepts_textLike (written : String) {accepts : List Char → Bool} {pieces : List Piece}
    (same : ∀ chars, accepts chars = true ↔ Matches pieces chars) :
    Accepts (textLike written accepts) (all [isText, pattern pieces]) := by
  intro value
  cases value with
  | string value => simp [textLike, isText, pattern, same]
  | _ => simp [textLike, isText]

theorem accepts_nonEmptyText : Accepts nonEmptyText (all [isText, minLength 1]) := by
  intro value
  cases value with
  | string value =>
      by_cases blank : value = ""
      · simp [blank, nonEmptyText, minLength]
      · simp [blank, nonEmptyText, text, isText, minLength, Nat.one_le_iff_ne_zero]
  | _ => simp [nonEmptyText, text, isText]

section

variable {check : Check} {shape : Shape} (item : Accepts check shape)
include item

theorem accepts_listOf : Accepts (listOf check) (all [isList, items shape]) := by
  intro value
  cases value with
  | array values => simp [listOf, isList, Shape.items, item _]
  | _ => simp [listOf, isList]

theorem accepts_nonEmptyListOf :
    Accepts (nonEmptyListOf check) (all [isList, minItems 1, items shape]) := by
  intro value
  cases value with
  | array values =>
      cases values with
      | nil => simp [nonEmptyListOf, minItems]
      | cons first others =>
          simp [nonEmptyListOf, listOf, isList, minItems, Shape.items, item _]
  | _ => simp [nonEmptyListOf, listOf, isList]

end

/-- Two checks of which exactly one has to pass. -/
theorem accepts_either {first second : Check} {left right : Shape} (one : Accepts first left)
    (other : Accepts second right) : Accepts (either first second) (oneOf left right) := by
  intro value
  simp only [oneOf, ← one value, ← other value, either]
  cases first value <;> cases second value <;> simp

/-! ### Objects -/

theorem missing_eq_nil_iff {names : List String} {members : List (String × Json)} :
    missing names members = [] ↔ ∀ name ∈ names, name ∈ members.map (·.1) := by
  simp [missing, List.lookup_eq_none_iff]

theorem membersOf_eq_nil_iff {known : List (String × Check)} {members : List (String × Json)} :
    membersOf known members = [] ↔
      (∀ member ∈ members, ∀ check, known.lookup member.1 = some check → check member.2 = []) ∧
        ∀ member ∈ members, member.1 ∈ known.map (·.1) := by
  simp only [membersOf, List.append_eq_nil_iff, List.flatMap_eq_nil_iff]
  refine and_congr (forall₂_congr fun member _ => ?_) ?_
  · cases known.lookup member.1 <;> simp
  · simp [List.filter_eq_nil_iff, List.lookup_eq_none_iff]

abbrev AcceptAll : List (String × Check) → List (String × Shape) → Prop :=
  List.Forall₂ fun known shape => known.1 = shape.1 ∧ Accepts known.2 shape.2

theorem AcceptAll.lookup {known : List (String × Check)} {shapes : List (String × Shape)}
    (each : AcceptAll known shapes) (name : String) :
    Option.Rel Accepts (known.lookup name) (shapes.lookup name) := by
  induction each with
  | nil => exact .none
  | @cons entry shape _ _ both _ ih =>
      obtain ⟨key, check⟩ := entry
      obtain ⟨_, shape⟩ := shape
      obtain ⟨rfl, accepts⟩ := both
      simp only [List.lookup_cons]
      cases name == key with
      | true => exact .some accepts
      | false => exact ih

theorem AcceptAll.names {known : List (String × Check)} {shapes : List (String × Shape)}
    (each : AcceptAll known shapes) : known.map (·.1) = shapes.map (·.1) := by
  induction each with
  | nil => rfl
  | cons both _ ih => rw [List.map_cons, List.map_cons, both.1, ih]

/-- The members are sound if they satisfy the schemas for their names and each name has one. -/
theorem AcceptAll.membersOf {known : List (String × Check)} {shapes : List (String × Shape)}
    (each : AcceptAll known shapes) {members : List (String × Json)} :
    Schema.membersOf known members = [] ↔
      properties shapes (.object members) ∧ noOther (shapes.map (·.1)) (.object members) := by
  simp only [properties, noOther, Json.object.injEq, forall_eq']
  rw [membersOf_eq_nil_iff, each.names]
  refine and_congr_left' (forall₂_congr fun member _ => ?_)
  have related := each.lookup member.1
  generalize known.lookup member.1 = check, shapes.lookup member.1 = shape at related ⊢
  cases related with
  | none => simp
  | some accepts => simp [accepts member.2]

theorem accepts_objectOf (names : List String) {known : List (String × Check)}
    {shapes : List (String × Shape)} (each : AcceptAll known shapes) :
    Accepts (objectOf names known) (record names shapes) := by
  intro value
  cases value with
  | object members =>
      rw [objectOf, List.append_eq_nil_iff, missing_eq_nil_iff,
        each.membersOf]
      simp [record, isObject, required]
  | _ => simp [objectOf, record, isObject]

/-! ### Patterns -/

theorem isOwner_iff (name : List Char) : isOwner name = true ↔ Matches ownerPattern name := by
  simp only [ownerPattern, matches_one_iff, matches_many_iff, matches_nil_iff]
  cases name with
  | nil => simp [isOwner]
  | cons first others => simp [isOwner, and_assoc]

theorem closes_iff {text : List Char} :
    closes text = true ↔ ∃ front char back, text = front ++ ')' :: char :: back := by
  induction text using closes.induct with
  | case1 char back => exact iff_of_true rfl ⟨[], char, back, rfl⟩
  | case2 first rest other ih =>
      rw [closes.eq_2 _ _ other, ih]
      constructor
      · rintro ⟨front, char, back, rfl⟩
        exact ⟨first :: front, char, back, rfl⟩
      · rintro ⟨front, char, back, same⟩
        cases front with
        | nil =>
            cases same
            exact (other char back rfl rfl).elim
        | cons _ front =>
            cases same
            exact ⟨front, char, back, rfl⟩
  | case3 => simp [closes]

theorem isDescriptorLike_cons {first : Char} {rest : List Char} :
    isDescriptorLike (first :: rest) = true ↔
      first = '(' ∧ closes rest = true ∧ ∀ char ∈ rest, char ≠ '\n' := by
  by_cases opens : first = '('
  · subst opens
    simp [isDescriptorLike, List.forall_mem_ne']
  · simp [isDescriptorLike, opens]

theorem isDescriptorLike_iff (text : List Char) :
    isDescriptorLike text = true ↔ Matches descriptorPattern text := by
  simp only [descriptorPattern, matches_one_iff, matches_many_iff, matches_nil_iff]
  cases text with
  | nil => simp [isDescriptorLike]
  | cons first rest =>
      rw [isDescriptorLike_cons, closes_iff]
      constructor
      · rintro ⟨rfl, ⟨front, char, back, rfl⟩, lines⟩
        obtain ⟨before, _, after, behind⟩ := by
          simpa only [List.forall_mem_append, List.forall_mem_cons] using lines
        exact ⟨_, _, rfl, rfl, front, _, rfl, before, _, _, rfl, rfl, char, back, rfl, after,
          back, [], (List.append_nil back).symm, behind, rfl⟩
      · rintro ⟨_, _, ⟨⟩, rfl, front, _, rfl, before, _, _, rfl, rfl, char, _, rfl, after, back, _,
          rfl, behind, rfl⟩
        refine ⟨rfl, ⟨front, char, back, by rw [List.append_nil]⟩, ?_⟩
        simp only [List.forall_mem_append, List.forall_mem_cons]
        exact ⟨before, by decide, after, behind, List.forall_mem_nil _⟩

/-! ### The whole -/

theorem accepts_target : Accepts target Shape.target := by
  apply accepts_either
  · apply accepts_objectOf
    exact .cons ⟨rfl, accepts_text⟩ .nil
  · apply accepts_objectOf
    refine .cons ⟨rfl, accepts_objectOf _ ?_⟩ .nil
    exact .cons ⟨rfl, accepts_text⟩ (.cons ⟨rfl, accepts_text⟩ .nil)

theorem accepts_permission : Accepts permission Shape.permission := by
  apply accepts_objectOf
  refine .cons ⟨rfl, ?_⟩ (.cons ⟨rfl, ?_⟩ (.cons ⟨rfl, ?_⟩ .nil))
  · exact accepts_nonEmptyText
  · exact accepts_target
  · exact accepts_text

theorem accepts_entry : Accepts entry Shape.entry := by
  apply accepts_objectOf
  refine .cons ⟨rfl, ?_⟩ (.cons ⟨rfl, ?_⟩ (.cons ⟨rfl, ?_⟩ (.cons ⟨rfl, ?_⟩ .nil)))
  · exact accepts_textLike _ isOwner_iff
  · exact accepts_nonEmptyText
  · exact accepts_textLike _ isDescriptorLike_iff
  · exact accepts_nonEmptyListOf accepts_permission

/-- The check of a file finds nothing wrong exactly if the file satisfies the schema. -/
theorem accepts_file : Accepts file Shape.file := by
  intro value
  have entries : AcceptAll [("entries", listOf entry)]
      [("entries", all [isList, items Shape.entry])] :=
    .cons ⟨rfl, accepts_listOf accepts_entry⟩ .nil
  -- The outermost object reports what is missing last.
  have swapped : file value = [] ↔ objectOf ["entries"] [("entries", listOf entry)] value = [] := by
    cases value <;> simp [file, objectOf, and_comm]
  exact swapped.trans (accepts_objectOf _ entries value)

end Schema

end GrantSurvey.Rulebook
