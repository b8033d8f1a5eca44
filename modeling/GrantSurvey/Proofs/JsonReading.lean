import GrantSurvey.Proofs.JsonText

/-!
# Compact texts are read back

The reader takes the compact text of a value for that value. This holds of values without numbers
whose members stand in the order of their names, as far as the reader descends. It comes from one
fact per kind of value, with any text behind it.
-/

namespace GrantSurvey.Json

/-- No numbers, so many levels at most, and all members in order. -/
def isReadable : Nat → Json → Bool
  | _, .null => true
  | _, .bool _ => true
  | _, .string _ => true
  | depth + 1, .array items => items.all (isReadable depth)
  | depth + 1, .object members =>
      members.all (fun member => isReadable depth member.2) &&
        decide (members.Pairwise fun first second => first.1 < second.1)
  | _, _ => false

/-! ## Texts of lists -/

def compactMember (member : String × Json) : String :=
  quoted member.1 ++ ":" ++ compact member.2

theorem compactItems_eq (items : List Json) : compactItems items = items.map compact := by
  induction items with
  | nil => rfl
  | cons item items ih => rw [compactItems, ih, List.map_cons]

theorem compactMembers_eq (members : List (String × Json)) :
    compactMembers members = members.map compactMember := by
  induction members with
  | nil => rfl
  | cons member members ih => rw [compactMembers, ih, List.map_cons, compactMember]

def trailing {α : Type} (write : α → String) (items : List α) : List Char :=
  items.flatMap fun item => ',' :: (write item).toList

@[simp]
theorem trailing_nil {α : Type} (write : α → String) : trailing write [] = [] := rfl

@[simp]
theorem trailing_cons_append {α : Type} (write : α → String) (item : α) (items : List α)
    (rest : List Char) :
    trailing write (item :: items) ++ rest =
      ',' :: ((write item).toList ++ (trailing write items ++ rest)) := by
  simp [trailing]

theorem toList_intercalate {α : Type} (write : α → String) (item : α) (items : List α) :
    (",".intercalate ((item :: items).map write)).toList =
      (write item).toList ++ trailing write items := by
  induction items generalizing item with
  | nil => simp
  | cons next items ih =>
      rw [List.map_cons, List.map_cons, String.intercalate_cons_cons, ← List.map_cons,
        String.toList_append, String.toList_append, ih next]
      simp [trailing]

theorem length_le_trailing {α : Type} (write : α → String) (items : List α) :
    items.length ≤ (trailing write items).length := by
  induction items with
  | nil => exact Nat.le_refl _
  | cons item items ih =>
      simp only [trailing, List.flatMap_cons, List.length_append, List.length_cons] at ih ⊢
      omega

/-! ## Reading values -/

namespace Parser

theorem skipBlanks_cons {char : Char} (visible : isBlank char = false) (text : List Char) :
    skipBlanks (char :: text) = char :: text := by
  simp [skipBlanks, visible]

/-- The compact text of a value does not start with a blank or a closing bracket, and is read as
the value whatever comes next. -/
structure Reads (depth : Nat) (json : Json) : Prop where
  starts : ∃ char tail, json.compact.toList = char :: tail ∧ isBlank char = false ∧ char ≠ ']'
  reads : ∀ rest, value depth (json.compact.toList ++ rest) = .ok (json, rest)

theorem Reads.skipBlanks_append {depth : Nat} {json : Json} (reads : Reads depth json)
    (rest : List Char) : skipBlanks (json.compact.toList ++ rest) = json.compact.toList ++ rest := by
  obtain ⟨char, tail, starts, visible, _⟩ := reads.starts
  rw [starts, List.cons_append, skipBlanks_cons visible]

theorem reads_null (depth : Nat) : Reads depth .null where
  starts := ⟨'n', _, rfl, by decide, by decide⟩
  reads rest := by simp [compact, value, word]

theorem reads_bool (depth : Nat) (truth : Bool) : Reads depth (.bool truth) where
  starts := by cases truth <;> exact ⟨_, _, rfl, by decide, by decide⟩
  reads rest := by cases truth <;> simp [compact, value, word]

theorem reads_string (depth : Nat) (text : String) : Reads depth (.string text) where
  starts := ⟨'"', _, toList_quoted text, by decide, by decide⟩
  reads rest := by
    rw [compact, toList_quoted, List.cons_append, List.append_assoc]
    simp [value, stringRest_escaped]

/-! ## Arrays -/

theorem itemsRest_compact {depth : Nat} {item : Json} {items : List Json} (first : Reads depth item)
    (others : ∀ item ∈ items, Reads depth item) {steps : Nat} (enough : items.length < steps)
    (rest : List Char) :
    itemsRest (value depth) steps
      (item.compact.toList ++ (trailing compact items ++ ']' :: rest)) =
        .ok (item :: items, rest) := by
  induction items generalizing item steps with
  | nil =>
      obtain ⟨steps, rfl⟩ := Nat.exists_eq_add_of_lt enough
      rw [itemsRest, first.skipBlanks_append, first.reads]
      rfl
  | cons next items ih =>
      obtain ⟨second, others⟩ := List.forall_mem_cons.mp others
      cases steps with
      | zero => cases enough
      | succ steps =>
          rw [itemsRest, first.skipBlanks_append, first.reads, trailing_cons_append]
          change (itemsRest (value depth) steps _ >>= _) = _
          rw [ih second others (Nat.lt_of_succ_lt_succ enough)]
          rfl

theorem reads_array {depth : Nat} {items : List Json} (all : ∀ item ∈ items, Reads depth item) :
    Reads (depth + 1) (.array items) where
  starts := ⟨'[', _, by simp only [compact, String.toList_append]; rfl, by decide, by decide⟩
  reads rest := by
    rw [compact, compactItems_eq]
    cases items with
    | nil => rfl
    | cons item items =>
        obtain ⟨first, others⟩ := List.forall_mem_cons.mp all
        have bound := length_le_trailing compact items
        have opened : ("[" ++ ",".intercalate ((item :: items).map compact) ++ "]").toList ++ rest =
            '[' :: (item.compact.toList ++ (trailing compact items ++ ']' :: rest)) := by
          simp only [String.toList_append, toList_intercalate]
          simp
        obtain ⟨char, tail, starts, -, unclosed⟩ := first.starts
        rw [opened, value, arrayRest, first.skipBlanks_append]
        -- The text of the first item is not mistaken for the end of an empty array.
        split
        · rename_i closed
          rw [starts, List.cons_append, List.cons.injEq] at closed
          exact (unclosed closed.1).elim
        · rw [itemsRest_compact first others (by simp only [List.length_append]; omega)]
          rfl

/-! ## Objects -/

section Members

variable {depth : Nat} {member : String × Json}

theorem toList_compactMember_append (member : String × Json) (rest : List Char) :
    (compactMember member).toList ++ rest =
      '"' :: (member.1.toList.flatMap (fun char => (escapedChar char).toList) ++
        '"' :: ':' :: (member.2.compact.toList ++ rest)) := by
  simp [compactMember, toList_quoted]

theorem membersRest_last (first : Reads depth member.2) (steps : Nat) (rest : List Char) :
    membersRest (value depth) (steps + 1) ((compactMember member).toList ++ '}' :: rest) =
      .ok ([member], rest) := by
  rw [membersRest, toList_compactMember_append, skipBlanks_cons rfl]
  change (stringRest _ >>= _) = _
  rw [stringRest_escaped]
  change (value depth (skipBlanks _) >>= _) = _
  rw [first.skipBlanks_append, first.reads, String.ofList_toList]
  rfl

theorem membersRest_next (first : Reads depth member.2) {steps : Nat} {text rest : List Char}
    {members : List (String × Json)}
    (next : membersRest (value depth) steps text = .ok (members, rest)) :
    membersRest (value depth) (steps + 1) ((compactMember member).toList ++ ',' :: text) =
      .ok (member :: members, rest) := by
  rw [membersRest, toList_compactMember_append, skipBlanks_cons rfl]
  change (stringRest _ >>= _) = _
  rw [stringRest_escaped]
  change (value depth (skipBlanks _) >>= _) = _
  rw [first.skipBlanks_append, first.reads, String.ofList_toList]
  change (membersRest (value depth) steps text >>= _) = _
  rw [next]
  rfl

theorem membersRest_compact {members : List (String × Json)} (first : Reads depth member.2)
    (others : ∀ member ∈ members, Reads depth member.2) {steps : Nat}
    (enough : members.length < steps) (rest : List Char) :
    membersRest (value depth) steps
      ((compactMember member).toList ++ (trailing compactMember members ++ '}' :: rest)) =
        .ok (member :: members, rest) := by
  induction members generalizing member steps with
  | nil =>
      obtain ⟨steps, rfl⟩ := Nat.exists_eq_add_of_lt enough
      exact membersRest_last first _ rest
  | cons next members ih =>
      obtain ⟨second, others⟩ := List.forall_mem_cons.mp others
      cases steps with
      | zero => cases enough
      | succ steps =>
          rw [trailing_cons_append]
          exact membersRest_next first (ih second others (Nat.lt_of_succ_lt_succ enough))

end Members

theorem insertMember_greatest {sorted : List (String × Json)} {name : String} {item : Json}
    (greatest : ∀ member ∈ sorted, member.1 < name) :
    insertMember name item sorted = sorted ++ [(name, item)] := by
  induction sorted with
  | nil => rfl
  | cons first sorted ih =>
      obtain ⟨less, others⟩ := List.forall_mem_cons.mp greatest
      have different : ¬ (name == first.1) = true := by
        rw [beq_iff_eq]
        rintro rfl
        exact String.lt_irrefl _ less
      rw [insertMember, if_neg (String.lt_asymm less), if_neg different, ih others,
        List.cons_append]

/-- Members that stand in order are left as they are. -/
theorem foldl_insertMember {sorted members : List (String × Json)}
    (ascending : (sorted ++ members).Pairwise fun first second => first.1 < second.1) :
    members.foldl (fun sorted member => insertMember member.1 member.2 sorted) sorted =
      sorted ++ members := by
  induction members generalizing sorted with
  | nil => exact (List.append_nil _).symm
  | cons member members ih =>
      have greatest : ∀ earlier ∈ sorted, earlier.1 < member.1 := fun earlier before =>
        (List.pairwise_append.mp ascending).2.2 earlier before member List.mem_cons_self
      rw [List.foldl_cons, insertMember_greatest greatest, ih, List.append_assoc]
      · rfl
      · rwa [List.append_assoc]

theorem reads_object {depth : Nat} {members : List (String × Json)}
    (all : ∀ member ∈ members, Reads depth member.2)
    (ascending : members.Pairwise fun first second => first.1 < second.1) :
    Reads (depth + 1) (.object members) where
  starts := ⟨'\x7b', _, by simp only [compact, String.toList_append]; rfl, by decide, by decide⟩
  reads rest := by
    rw [compact, compactMembers_eq]
    cases members with
    | nil => rfl
    | cons member members =>
        obtain ⟨first, others⟩ := List.forall_mem_cons.mp all
        have bound := length_le_trailing compactMember members
        have opened : ("\x7b" ++ ",".intercalate ((member :: members).map compactMember) ++
            "\x7d").toList ++ rest =
              '{' :: ((compactMember member).toList ++
                (trailing compactMember members ++ '}' :: rest)) := by
          simp only [String.toList_append, toList_intercalate]
          simp
        have sorted := @foldl_insertMember [] (member :: members) ascending
        rw [opened, value, objectRest, toList_compactMember_append, skipBlanks_cons rfl]
        change (membersRest (value depth) _ _ >>= _) = _
        rw [← toList_compactMember_append,
          membersRest_compact first others (by simp only [List.length_append]; omega)]
        exact congrArg (fun members => Except.ok (Json.object members, rest)) sorted

theorem reads_of_isReadable {depth : Nat} {json : Json} (readable : isReadable depth json) :
    Reads depth json := by
  induction depth generalizing json with
  | zero =>
      cases json with
      | null => exact reads_null 0
      | bool truth => exact reads_bool 0 truth
      | string text => exact reads_string 0 text
      | _ => cases readable
  | succ depth ih =>
      cases json with
      | null => exact reads_null _
      | bool truth => exact reads_bool _ truth
      | number text => cases readable
      | string text => exact reads_string _ text
      | array items =>
          exact reads_array fun item member => ih (List.all_eq_true.mp readable item member)
      | object members =>
          rw [isReadable, Bool.and_eq_true, List.all_eq_true, decide_eq_true_eq] at readable
          obtain ⟨all, ascending⟩ := readable
          exact reads_object (fun member within => ih (all member within)) ascending

end Parser

/-- A value is read back from its compact text. -/
theorem parse_compact {json : Json} (readable : isReadable Parser.maxDepth json) :
    parse json.compact = .ok json := by
  have reads := Parser.reads_of_isReadable readable
  have whole := reads.reads []
  have visible := reads.skipBlanks_append []
  rw [List.append_nil] at whole visible
  rw [parse, visible, whole]
  rfl

end GrantSurvey.Json
