import GrantSurvey.Proofs.Outcome
import GrantSurvey.Rulebook.Builtin
import GrantSurvey.Rulebook.Extension

/-!
# What rulebooks hold

A rulebook is the built-in one, or it is loaded from a file or laid over another one. Whichever way
it came about, none of its rules is without a template: the built-in ones have templates, the shape
of a file demands one, and no step of loading or overlaying makes up a rule.
-/

namespace GrantSurvey.Rulebook

/-- The rulebooks that can come about. -/
inductive Attainable : Rulebook → Prop where
  | builtin : Attainable builtin
  | loaded {source : String} {json : Json} {book : Rulebook}
      (loads : ofJson source json = .ok book) : Attainable book
  | overlaid {book extension : Rulebook} (below : Attainable book) (above : Attainable extension) :
      Attainable (book.overlay extension)

def Filled (book : Rulebook) : Prop :=
  ∀ rule ∈ book.rules, rule.templates ≠ []

/-! ## The shape of a file -/

namespace Schema

/-- In an object without a fault, a member passes the check for its name. -/
theorem check_eq_nil {known : List (String × Check)} {members : List (String × Json)}
    {name : String} {value : Json} {check : Check} (sound : membersOf known members = [])
    (found : members.lookup name = some value) (knows : known.lookup name = some check) :
    check value = [] := by
  obtain ⟨before, after, split, _⟩ := List.lookup_eq_some_iff.mp found
  have member : (name, value) ∈ members := by simp [split]
  have passes := List.flatMap_eq_nil_iff.mp (List.append_eq_nil_iff.mp sound).1 _ member
  simpa [knows] using passes

theorem items_ne_nil {check : Check} {items : List Json}
    (sound : nonEmptyListOf check (.array items) = []) : items ≠ [] := by
  rintro rfl
  cases sound

end Schema

/-! ## Loading -/

/-- A method without parameters and result. -/
theorem parse_procedure : Descriptor.parse "()V" = .ok ⟨[], .primitive 'V'⟩ := by
  have types : Descriptor.parameterTypes [')', 'V'] = .ok ([], ['V']) := by
    rw [Descriptor.parameterTypes]
  simp only [Descriptor.parse, String.reduceToList, types]
  rfl

theorem record?_eq_some_iff {known : List String} {json record : Json} :
    record? known json = some record ↔
      record = json ∧ ∃ members, json = .object members ∧ ∀ member ∈ members, member.1 ∈ known := by
  cases json with
  | object members =>
      simp only [record?, List.all_eq_true, List.contains_iff_mem]
      constructor
      · intro found
        split at found
        · rename_i closed
          cases found
          exact ⟨rfl, members, rfl, closed⟩
        · cases found
      · rintro ⟨rfl, _, ⟨⟩, closed⟩
        exact if_pos closed
  | _ =>
      constructor
      · intro found
        cases found
      · rintro ⟨_, _, ⟨⟩, _⟩

theorem items?_eq_some_iff {json : Json} {items : List Json} :
    items? json = some items ↔ json = .array items := by
  cases json <;> simp [items?]

/-- A rule has a template for each of the permissions of its entry. -/
theorem exists_permissions {json : Json} {rule : Rule} (reads : rule? json = some rule) :
    ∃ items, json.member? "permissions" = some (.array items) ∧
      items.mapM template? = some rule.templates := by
  simp only [rule?, Option.bind_eq_bind, Option.bind_eq_some_iff, items?_eq_some_iff] at reads
  obtain ⟨_, closed, _, _, owner, _, _, _, name, _, descriptor, _, _, found, items, rfl, templates,
    read, same⟩ := reads
  obtain ⟨rfl, _⟩ := record?_eq_some_iff.mp closed
  cases same
  exact ⟨items, found, read⟩

theorem templates_ne_nil {json : Json} {rule : Rule} (sound : Schema.entry json = [])
    (reads : rule? json = some rule) : rule.templates ≠ [] := by
  obtain ⟨items, found, read⟩ := exists_permissions reads
  cases json with
  | object members =>
      have passes := Schema.check_eq_nil (List.append_eq_nil_iff.mp sound).2 found rfl
      have lengths := (Outcome.mapM_eq_some_iff.mp read).length_eq
      have some := List.length_pos_iff.mpr (Schema.items_ne_nil passes)
      exact List.length_pos_iff.mp (lengths ▸ some)
  | _ => cases found

theorem forall_templates_ne_nil {json : Json} {rules : List Rule} (sound : Schema.file json = [])
    (reads : rules? json = some rules) : ∀ rule ∈ rules, rule.templates ≠ [] := by
  simp only [rules?, Option.bind_eq_bind, Option.bind_eq_some_iff, items?_eq_some_iff] at reads
  obtain ⟨record, closed, _, found, items, rfl, reads⟩ := reads
  obtain ⟨rfl, _⟩ := record?_eq_some_iff.mp closed
  cases record with
  | object members =>
      have passes := Schema.check_eq_nil (List.append_eq_nil_iff.mp sound).1 found rfl
      intro rule member
      obtain ⟨item, within, read⟩ := Outcome.exists_of_mem_mapM reads member
      exact templates_ne_nil (List.flatMap_eq_nil_iff.mp passes item within) read
  | _ => cases found

theorem rules_enter {source : String} {book next : Rulebook} {rule : Rule}
    (enters : enter source book rule = .ok next) : next.rules = book.rules ++ [rule] := by
  simp only [enter] at enters
  split at enters
  · cases enters
  · split at enters
    · cases enters
    · cases enters
      rfl

/-- The rules of a file are entered one after the other. -/
theorem rules_foldlM_enter {source : String} {rules : List Rule} {book next : Rulebook}
    (enters : rules.foldlM (enter source) book = .ok next) : next.rules = book.rules ++ rules := by
  induction rules generalizing book with
  | nil =>
      cases enters
      exact (List.append_nil _).symm
  | cons rule rules ih =>
      rw [List.foldlM_cons] at enters
      obtain ⟨between, first, others⟩ := Outcome.bind_eq_ok_iff.mp enters
      rw [ih others, rules_enter first, List.append_assoc]
      rfl

theorem filled_of_ofJson {source : String} {json : Json} {book : Rulebook}
    (loads : ofJson source json = .ok book) : book.Filled := by
  simp only [ofJson, List.isEmpty_iff] at loads
  split at loads
  · rename_i sound
    split at loads
    · rename_i rules reads
      intro rule member
      rw [rules_foldlM_enter loads] at member
      exact forall_templates_ne_nil sound reads rule (by simpa [empty] using member)
    · cases loads
  · cases loads

/-! ## Overlaying -/

theorem mem_insertRule {new rule : Rule} {rules : List Rule}
    (member : rule ∈ insertRule new rules) : rule = new ∨ rule ∈ rules := by
  induction rules with
  | nil => exact .inl (List.mem_singleton.mp member)
  | cons first others ih =>
      rw [insertRule] at member
      split at member
      · exact (List.mem_cons.mp member).imp_right (List.mem_cons_of_mem _)
      · rcases List.mem_cons.mp member with rfl | member
        · exact .inr List.mem_cons_self
        · exact (ih member).imp_right (List.mem_cons_of_mem _)

theorem Filled.insert {book : Rulebook} {rule : Rule} (filled : book.Filled)
    (some : rule.templates ≠ []) : (book.insert rule).Filled := by
  intro other member
  rcases mem_insertRule member with rfl | member
  · exact some
  · exact filled other member

theorem Filled.overlay {book extension : Rulebook} (below : book.Filled)
    (above : extension.Filled) : (book.overlay extension).Filled := by
  rw [Rulebook.overlay]
  exact List.foldlRecOn extension.rules Rulebook.insert below fun _ filled rule member =>
    filled.insert (above rule member)

set_option maxRecDepth 2000 in
theorem filled_builtin : builtin.Filled := by
  have listed : (builtin.rules.all fun rule => !rule.templates.isEmpty) = true := rfl
  intro rule member
  simpa using List.all_eq_true.mp listed rule member

theorem Attainable.filled {book : Rulebook} (attainable : book.Attainable) : book.Filled := by
  induction attainable with
  | builtin => exact filled_builtin
  | loaded loads => exact filled_of_ofJson loads
  | overlaid _ _ below above => exact below.overlay above

/-! ## Extending -/

theorem exists_ofJson_of_loadFile {system : FileSystem} {path : String} {layer : Rulebook}
    (loads : loadFile system path = .ok layer) : ∃ json, ofJson path json = .ok layer := by
  rw [loadFile] at loads
  split at loads
  · rw [Outcome.mapError_eq_ok_iff, load] at loads
    split at loads
    · exact ⟨_, loads⟩
    · cases loads
  · cases loads

/-- Files extend an attainable rulebook to an attainable one. -/
theorem Attainable.extended {system : FileSystem} {book merged : Rulebook} {paths : List String}
    (attainable : book.Attainable) (merges : extended system book paths = .ok merged) :
    merged.Attainable := by
  induction paths generalizing book with
  | nil =>
      cases merges
      exact attainable
  | cons path paths ih =>
      rw [Rulebook.extended, List.foldlM_cons] at merges
      obtain ⟨next, first, others⟩ := Outcome.bind_eq_ok_iff.mp merges
      cases loads : loadFile system path with
      | error fault =>
          rw [loads] at first
          cases first
      | ok layer =>
          rw [loads] at first
          cases first
          obtain ⟨json, loaded⟩ := exists_ofJson_of_loadFile loads
          exact ih (attainable.overlaid (.loaded loaded)) others

/-- In a filled rulebook, whatever stands under a key is a template at least. -/
theorem Filled.find?_ne_nil {book : Rulebook} (filled : book.Filled) {key : Key}
    {templates : List Template} (found : book.find? key = some templates) : templates ≠ [] := by
  obtain ⟨rule, at_key, rfl⟩ := Option.map_eq_some_iff.mp found
  exact filled rule (List.mem_of_find?_eq_some at_key)

end GrantSurvey.Rulebook
