import GrantSurvey.Proofs.RulebookContents
import GrantSurvey.Proofs.RulebookShape
import Mathlib.Data.List.Nodup

/-!
# Which files load

A file that satisfies the schema lists one sequence of rules, which is what its reader finds. The
rules are then entered one by one. A rule is sound after earlier ones if its descriptor can be read
and no earlier one has its key. So a file loads exactly if it satisfies the schema and all of its
rules are sound, and otherwise the fault names the first rule that is not.
-/

namespace GrantSurvey.Rulebook

/-! ## What a file lists -/

inductive DescribesTarget (json : Json) : Target → Prop where
  | literal {text : String} (member : json.member? "literal" = some (.string text)) :
      DescribesTarget json (.literal text)
  | substitute {parts : Json} {pattern wildcard : String}
      (member : json.member? "substitute" = some parts)
      (first : parts.member? "pattern" = some (.string pattern))
      (second : parts.member? "wildcard" = some (.string wildcard)) :
      DescribesTarget json (.substitute pattern wildcard)

/-- The value of a template. Actions that are left out are empty. -/
structure DescribesTemplate (json : Json) (template : Template) : Prop where
  kind : json.member? "kind" = some (.string template.kind)
  target : ∃ value, json.member? "target" = some value ∧ DescribesTarget value template.target
  actions : json.member? "actions" = some (.string template.actions) ∨
    json.member? "actions" = none ∧ template.actions = ""

/-- The value of a rule. A descriptor that is left out stands for any. -/
structure DescribesRule (json : Json) (rule : Rule) : Prop where
  owner : json.member? "owner" = some (.string rule.key.owner)
  name : json.member? "name" = some (.string rule.key.name)
  descriptor : json.member? "descriptor" = rule.key.descriptor.map .string
  templates : ∃ items, json.member? "permissions" = some (.array items) ∧
    List.Forall₂ DescribesTemplate items rule.templates

def Lists (json : Json) (rules : List Rule) : Prop :=
  ∃ items, json.member? "entries" = some (.array items) ∧ List.Forall₂ DescribesRule items rules

/-! ## Members of records -/

theorem mem_of_member? {members : List (String × Json)} {name : String} {value : Json}
    (found : Json.member? name (.object members) = some value) : (name, value) ∈ members := by
  obtain ⟨before, after, rfl, _⟩ := List.lookup_eq_some_iff.mp found
  exact List.mem_append_right _ List.mem_cons_self

namespace Shape

variable {names : List String} {shapes : List (String × Shape)} {json : Json} {name : String}

theorem record_iff {members : List (String × Json)} :
    record names shapes (.object members) ↔
      (∀ name ∈ names, name ∈ members.map (·.1)) ∧
      (∀ member ∈ members, ∀ shape, shapes.lookup member.1 = some shape → shape member.2) ∧
      ∀ member ∈ members, member.1 ∈ shapes.map (·.1) := by
  simp only [record, all_cons, all_nil, and_true, isObject, required, properties, noOther,
    Json.object.injEq, forall_eq', exists_eq', true_and]

theorem exists_members (sound : record names shapes json) : ∃ members, json = .object members :=
  (all_cons.mp sound).1

theorem record?_eq_of_record (sound : record names shapes json) :
    record? (shapes.map (·.1)) json = some json := by
  obtain ⟨members, rfl⟩ := exists_members sound
  exact record?_eq_some_iff.mpr ⟨rfl, members, rfl, (record_iff.mp sound).2.2⟩

theorem shape_of_member? {value : Json} {shape : Shape} (sound : record names shapes json)
    (found : json.member? name = some value) (known : shapes.lookup name = some shape) :
    shape value := by
  obtain ⟨members, rfl⟩ := exists_members sound
  exact (record_iff.mp sound).2.1 _ (mem_of_member? found) _ known

/-- A required member is there, and satisfies its schema. -/
theorem exists_member? (name : String) {shape : Shape} (sound : record names shapes json)
    (needed : name ∈ names) (known : shapes.lookup name = some shape) :
    ∃ value, json.member? name = some value ∧ shape value := by
  obtain ⟨members, rfl⟩ := exists_members sound
  cases found : Json.member? name (.object members) with
  | none =>
      have absent := List.lookup_eq_none_iff.mp found
      obtain ⟨member, within, rfl⟩ := List.mem_map.mp ((record_iff.mp sound).1 name needed)
      simpa using absent member within
  | some value => exact ⟨value, rfl, shape_of_member? sound found known⟩

theorem member?_eq_none (sound : record names shapes json) (strange : name ∉ shapes.map (·.1)) :
    json.member? name = none := by
  obtain ⟨members, rfl⟩ := exists_members sound
  refine List.lookup_eq_none_iff.mpr fun member within => ?_
  have known := (record_iff.mp sound).2.2 member within
  simp only [bne_iff_ne, ne_eq]
  rintro rfl
  exact strange known

theorem exists_items {shape : Shape} (listed : isList json) (each : items shape json) :
    ∃ values, json = .array values ∧ ∀ value ∈ values, shape value := by
  obtain ⟨values, rfl⟩ := listed
  exact ⟨values, rfl, each values rfl⟩

end Shape

theorem record?_eq_none {known : List String} {json value : Json} {name : String}
    (found : json.member? name = some value) (strange : name ∉ known) :
    record? known json = none := by
  rw [Option.eq_none_iff_forall_ne_some]
  intro record closed
  obtain ⟨_, members, rfl, all⟩ := record?_eq_some_iff.mp closed
  exact strange (all _ (mem_of_member? found))

/-! ## Reading -/

/-- On the values of a schema, a reader finds the one thing that the value describes. -/
def Reads {α : Type} (read : Json → Option α) (describes : Json → α → Prop) (shape : Shape) :
    Prop :=
  ∀ json, shape json →
    ∃ value, read json = some value ∧ ∀ other, describes json other ↔ other = value

/-- Readers read lists item by item. -/
theorem Reads.mapM {α : Type} {read : Json → Option α} {describes : Json → α → Prop}
    {shape : Shape} (reads : Reads read describes shape) {items : List Json}
    (sound : ∀ item ∈ items, shape item) :
    ∃ values, items.mapM read = some values ∧
      ∀ others, List.Forall₂ describes items others ↔ others = values := by
  induction items with
  | nil => exact ⟨[], rfl, fun _ => List.forall₂_nil_left_iff⟩
  | cons item items ih =>
      obtain ⟨first, rest⟩ := List.forall_mem_cons.mp sound
      obtain ⟨value, found, unique⟩ := reads item first
      obtain ⟨values, others, alone⟩ := ih rest
      refine ⟨value :: values, ?_, fun others => ?_⟩
      · rw [List.mapM_cons, found, others]
        rfl
      · rw [List.forall₂_cons_left_iff]
        simp only [unique, alone]
        constructor
        · rintro ⟨_, _, rfl, rfl, rfl⟩
          rfl
        · rintro rfl
          exact ⟨value, values, rfl, rfl, rfl⟩

theorem reads_target : Reads target? DescribesTarget Shape.target := by
  intro json sound
  rcases sound with ⟨sound, _⟩ | ⟨_, sound⟩
  · have closed : record? ["literal"] json = some json := Shape.record?_eq_of_record sound
    have foreign : json.member? "substitute" = none := Shape.member?_eq_none sound (by simp)
    obtain ⟨_, found, text, rfl⟩ := Shape.exists_member? "literal" sound (by simp) rfl
    refine ⟨.literal text, by simp [target?, closed, found, text?], fun other => ?_⟩
    constructor
    · rintro (member | member)
      · cases found.symm.trans member
        rfl
      · cases foreign.symm.trans member
    · rintro rfl
      exact .literal found
  · have closed : record? ["substitute"] json = some json := Shape.record?_eq_of_record sound
    have foreign : json.member? "literal" = none := Shape.member?_eq_none sound (by simp)
    obtain ⟨parts, found, inner⟩ := Shape.exists_member? "substitute" sound (by simp) rfl
    have whole : record? ["pattern", "wildcard"] parts = some parts :=
      Shape.record?_eq_of_record inner
    obtain ⟨_, first, pattern, rfl⟩ := Shape.exists_member? "pattern" inner (by simp) rfl
    obtain ⟨_, second, wildcard, rfl⟩ := Shape.exists_member? "wildcard" inner (by simp) rfl
    have other : record? ["literal"] json = none := record?_eq_none found (by simp)
    refine ⟨.substitute pattern wildcard, ?_, fun other => ?_⟩
    · simp [target?, other, closed, found, whole, first, second, text?]
    · constructor
      · rintro (member | ⟨member, one, two⟩)
        · cases foreign.symm.trans member
        · cases found.symm.trans member
          cases first.symm.trans one
          cases second.symm.trans two
          rfl
      · rintro rfl
        exact .substitute found first second

theorem reads_actions : Reads actions? (fun json actions =>
    json.member? "actions" = some (.string actions) ∨
      json.member? "actions" = none ∧ actions = "") Shape.permission := by
  intro json sound
  cases found : json.member? "actions" with
  | none => exact ⟨"", by simp [actions?, found], fun other => by simp [found]⟩
  | some value =>
      obtain ⟨text, rfl⟩ := Shape.shape_of_member? sound found rfl
      exact ⟨text, by simp [actions?, found, text?], fun other => by simp [found, eq_comm]⟩

theorem reads_template : Reads template? DescribesTemplate Shape.permission := by
  intro json sound
  have closed : record? ["kind", "target", "actions"] json = some json :=
    Shape.record?_eq_of_record sound
  obtain ⟨_, kindFound, shaped⟩ := Shape.exists_member? "kind" sound (by simp) rfl
  obtain ⟨kind, rfl⟩ := (Shape.all_cons.mp shaped).1
  obtain ⟨value, targetFound, shaped⟩ := Shape.exists_member? "target" sound (by simp) rfl
  obtain ⟨target, targetRead, oneTarget⟩ := reads_target value shaped
  obtain ⟨actions, actionsRead, oneActions⟩ := reads_actions json sound
  refine ⟨⟨kind, target, actions⟩, ?_, fun other => ?_⟩
  · simp [template?, closed, kindFound, text?, targetFound, targetRead, actionsRead]
  · constructor
    · rintro ⟨sameKind, ⟨_, sameTarget, described⟩, sameActions⟩
      obtain ⟨_, _, _⟩ := other
      cases kindFound.symm.trans sameKind
      cases targetFound.symm.trans sameTarget
      cases (oneTarget _).mp described
      cases (oneActions _).mp sameActions
      rfl
    · rintro rfl
      exact ⟨kindFound, ⟨value, targetFound, (oneTarget target).mpr rfl⟩,
        (oneActions actions).mpr rfl⟩

theorem reads_descriptor : Reads descriptor? (fun json descriptor =>
    json.member? "descriptor" = descriptor.map .string) Shape.entry := by
  intro json sound
  cases found : json.member? "descriptor" with
  | none =>
      refine ⟨none, by simp [descriptor?, found], fun other => ?_⟩
      cases other <;> simp [found]
  | some value =>
      obtain ⟨text, rfl⟩ := (Shape.all_cons.mp (Shape.shape_of_member? sound found rfl)).1
      refine ⟨some text, by simp [descriptor?, found, text?], fun other => ?_⟩
      cases other <;> simp [found, eq_comm]

theorem reads_rule : Reads rule? DescribesRule Shape.entry := by
  intro json sound
  have closed : record? ["owner", "name", "descriptor", "permissions"] json = some json :=
    Shape.record?_eq_of_record sound
  obtain ⟨_, ownerFound, shaped⟩ := Shape.exists_member? "owner" sound (by simp) rfl
  obtain ⟨owner, rfl⟩ := (Shape.all_cons.mp shaped).1
  obtain ⟨_, nameFound, shaped⟩ := Shape.exists_member? "name" sound (by simp) rfl
  obtain ⟨name, rfl⟩ := (Shape.all_cons.mp shaped).1
  obtain ⟨descriptor, descriptorRead, oneDescriptor⟩ := reads_descriptor json sound
  obtain ⟨_, permissionsFound, shaped⟩ := Shape.exists_member? "permissions" sound (by simp) rfl
  simp only [Shape.all_cons, Shape.all_nil, and_true] at shaped
  obtain ⟨items, rfl, each⟩ := Shape.exists_items shaped.1 shaped.2.2
  obtain ⟨templates, templatesRead, oneList⟩ := reads_template.mapM each
  refine ⟨⟨⟨owner, name, descriptor⟩, templates⟩, ?_, fun other => ?_⟩
  · simp [rule?, closed, ownerFound, nameFound, text?, descriptorRead, permissionsFound, items?,
      templatesRead]
  · constructor
    · rintro ⟨sameOwner, sameName, sameDescriptor, _, sameItems, described⟩
      obtain ⟨⟨_, _, _⟩, _⟩ := other
      cases ownerFound.symm.trans sameOwner
      cases nameFound.symm.trans sameName
      cases (oneDescriptor _).mp sameDescriptor
      cases permissionsFound.symm.trans sameItems
      cases (oneList _).mp described
      rfl
    · rintro rfl
      exact ⟨ownerFound, nameFound, (oneDescriptor descriptor).mpr rfl, items, permissionsFound,
        (oneList templates).mpr rfl⟩

theorem reads_rules : Reads rules? Lists Shape.file := by
  intro json sound
  have closed : record? ["entries"] json = some json := Shape.record?_eq_of_record sound
  obtain ⟨_, found, shaped⟩ := Shape.exists_member? "entries" sound (by simp) rfl
  simp only [Shape.all_cons, Shape.all_nil, and_true] at shaped
  obtain ⟨items, rfl, each⟩ := Shape.exists_items shaped.1 shaped.2
  obtain ⟨rules, read, oneList⟩ := reads_rule.mapM each
  refine ⟨rules, ?_, fun other => ?_⟩
  · simp [rules?, closed, found, items?, read]
  · constructor
    · rintro ⟨_, sameItems, described⟩
      cases found.symm.trans sameItems
      exact (oneList other).mp described
    · rintro rfl
      exact ⟨items, found, (oneList other).mpr rfl⟩

/-! ## Keys -/

def Key.Readable (key : Key) : Prop :=
  ∀ text, key.descriptor = some text → ∃ descriptor, Descriptor.parse text = .ok descriptor

def keys (rules : List Rule) : List Key :=
  rules.map (·.key)

@[simp]
theorem keys_append (rules others : List Rule) :
    keys (rules ++ others) = keys rules ++ keys others :=
  List.map_append

theorem find?_cons (rule : Rule) (rules : List Rule) (key : Key) :
    Rulebook.find? ⟨rule :: rules⟩ key =
      if rule.key = key then some rule.templates else Rulebook.find? ⟨rules⟩ key := by
  by_cases same : rule.key = key <;> simp [find?, same]

theorem find?_eq_none_iff {book : Rulebook} {key : Key} :
    book.find? key = none ↔ key ∉ keys book.rules := by
  simp [find?, keys]

/-- With different keys, every rule is found under its own. -/
theorem find?_of_mem {book : Rulebook} (different : (keys book.rules).Nodup) {rule : Rule}
    (member : rule ∈ book.rules) : book.find? rule.key = some rule.templates := by
  obtain ⟨before, after, split⟩ := List.append_of_mem member
  have absent : rule.key ∉ keys before := by
    rw [split, keys_append, List.nodup_append] at different
    intro seen
    exact different.2.2 _ seen _ List.mem_cons_self rfl
  refine Option.map_eq_some_iff.mpr ⟨rule, ?_, rfl⟩
  refine List.find?_eq_some_iff_append.mpr ⟨beq_self_eq_true _, before, after, split, ?_⟩
  intro other within
  rw [Bool.not_eq_true', beq_eq_false_iff_ne]
  intro same
  exact absent (same ▸ List.mem_map_of_mem within)

/-! ## Entering -/

def Sound (rules : List Rule) : Prop :=
  (∀ rule ∈ rules, rule.key.Readable) ∧ (keys rules).Nodup

inductive Faulty (source : String) (earlier : List Rule) (rule : Rule) : LoadFault → Prop where
  | unreadable {text : String} {fault : Descriptor.Fault}
      (given : rule.key.descriptor = some text) (fails : Descriptor.parse text = .error fault) :
      Faulty source earlier rule (.badDescriptor source rule.key
        ["invalid method descriptor " ++ Text.quoted text, fault.message])
  | repeated (reads : rule.key.Readable) (seen : rule.key ∈ keys earlier) :
      Faulty source earlier rule (.duplicate source rule.key)

theorem Sound.of_append {rules others : List Rule} (sound : Sound (rules ++ others)) :
    Sound rules := by
  obtain ⟨readable, different⟩ := sound
  rw [keys_append] at different
  exact ⟨(List.forall_mem_append.mp readable).1, List.Nodup.of_append_left different⟩

theorem sound_append_singleton_iff {earlier : List Rule} {rule : Rule} :
    Sound (earlier ++ [rule]) ↔
      Sound earlier ∧ rule.key.Readable ∧ rule.key ∉ keys earlier := by
  simp only [Sound, List.forall_mem_append, List.forall_mem_singleton, keys_append]
  have different : (keys earlier ++ keys [rule]).Nodup ↔
      rule.key ∉ keys earlier ∧ (keys earlier).Nodup :=
    List.nodup_append_comm.trans List.nodup_cons
  rw [different]
  tauto

theorem Faulty.not_sound {source : String} {earlier : List Rule} {rule : Rule} {fault : LoadFault}
    (faulty : Faulty source earlier rule fault) : ¬ Sound (earlier ++ [rule]) := by
  rw [sound_append_singleton_iff]
  rintro ⟨_, readable, new⟩
  cases faulty with
  | unreadable given fails =>
      obtain ⟨descriptor, parses⟩ := readable _ given
      cases fails.symm.trans parses
  | repeated _ seen => exact new seen

theorem enter_of_readable (source : String) (book : Rulebook) {rule : Rule}
    (readable : rule.key.Readable) :
    enter source book rule =
      if (book.find? rule.key).isSome then .error (.duplicate source rule.key)
      else .ok ⟨book.rules ++ [rule]⟩ := by
  cases given : rule.key.descriptor with
  | none => simp only [enter, given]
  | some text =>
      obtain ⟨descriptor, parses⟩ := readable text given
      simp only [enter, given, Descriptor.validate, parses]

/-- A rule is either entered or faulty. -/
theorem enter_cases (source : String) {book : Rulebook} (sound : Sound book.rules) (rule : Rule) :
    Sound (book.rules ++ [rule]) ∧ enter source book rule = .ok ⟨book.rules ++ [rule]⟩ ∨
      ∃ fault, Faulty source book.rules rule fault ∧ enter source book rule = .error fault := by
  by_cases readable : rule.key.Readable
  · rw [enter_of_readable source book readable]
    by_cases seen : rule.key ∈ keys book.rules
    · refine .inr ⟨_, .repeated readable seen, if_pos ?_⟩
      rwa [Option.isSome_iff_ne_none, ne_eq, find?_eq_none_iff, not_not]
    · refine .inl ⟨sound_append_singleton_iff.mpr ⟨sound, readable, seen⟩, if_neg ?_⟩
      rw [find?_eq_none_iff.mpr seen]
      exact Bool.false_ne_true
  · simp only [Key.Readable, not_forall, not_exists] at readable
    obtain ⟨text, given, refused⟩ := readable
    cases fails : Descriptor.parse text with
    | ok descriptor => exact (refused descriptor fails).elim
    | error fault =>
        refine .inr ⟨_, .unreadable given fails, ?_⟩
        simp only [enter, given, Descriptor.validate, fails]

/-- Rules are either entered all, or up to the first that is faulty. -/
theorem foldlM_enter_cases (source : String) {book : Rulebook} (sound : Sound book.rules)
    (rules : List Rule) :
    Sound (book.rules ++ rules) ∧
        rules.foldlM (enter source) book = .ok ⟨book.rules ++ rules⟩ ∨
      ∃ before rule after fault, rules = before ++ rule :: after ∧ Sound (book.rules ++ before) ∧
        Faulty source (book.rules ++ before) rule fault ∧
        rules.foldlM (enter source) book = .error fault := by
  induction rules generalizing book with
  | nil =>
      left
      rw [List.append_nil]
      exact ⟨sound, rfl⟩
  | cons rule rules ih =>
      rw [List.foldlM_cons]
      rcases enter_cases source sound rule with ⟨extended, enters⟩ | ⟨fault, faulty, fails⟩
      · -- The induction hypothesis is about the book with this rule at its end.
        rw [enters, List.append_cons]
        rcases ih extended with done | ⟨before, next, after, fault, rfl, earlier, faulty, fails⟩
        · exact .inl done
        · refine .inr ⟨rule :: before, next, after, fault, rfl, ?_, ?_, fails⟩
          · rwa [List.append_cons]
          · rwa [List.append_cons]
      · refine .inr ⟨[], rule, rules, fault, rfl, ?_, ?_, ?_⟩
        · rwa [List.append_nil]
        · rwa [List.append_nil]
        · rw [fails]
          rfl

/-! ## Loading -/

theorem Faulty.not_sound_append {source : String} {before after : List Rule} {rule : Rule}
    {fault : LoadFault} (faulty : Faulty source before rule fault) :
    ¬ Sound (before ++ rule :: after) := by
  rw [List.append_cons]
  intro sound
  exact faulty.not_sound sound.of_append

def ListsOnly (json : Json) (rules : List Rule) : Prop :=
  ∀ others, Lists json others ↔ others = rules

/-- A value has the wrong shape, or it lists sound rules, or one of its rules is faulty. -/
theorem ofJson_cases (source : String) (json : Json) :
    ¬ Shape.file json ∧ (∃ violations, ofJson source json = .error (.invalid source violations)) ∨
      Shape.file json ∧ ∃ rules, ListsOnly json rules ∧
        (Sound rules ∧ ofJson source json = .ok ⟨rules⟩ ∨
          ∃ before rule after fault, rules = before ++ rule :: after ∧ Sound before ∧
            Faulty source before rule fault ∧ ofJson source json = .error fault) := by
  have accepts := Schema.accepts_file json
  by_cases shaped : Shape.file json
  · obtain ⟨rules, read, only⟩ := reads_rules json shaped
    have entered : ofJson source json = rules.foldlM (enter source) empty := by
      simp only [ofJson, accepts.mpr shaped, List.isEmpty_nil, if_true, read]
    rw [entered]
    exact .inr ⟨shaped, rules, only,
      foldlM_enter_cases source ⟨List.forall_mem_nil _, List.nodup_nil⟩ rules⟩
  · refine .inl ⟨shaped, Schema.file json, if_neg ?_⟩
    rwa [List.isEmpty_iff, accepts]

theorem exists_ofJson_iff {source : String} {json : Json} :
    (∃ book, ofJson source json = .ok book) ↔
      Shape.file json ∧ ∃ rules, Lists json rules ∧ Sound rules := by
  rcases ofJson_cases source json with ⟨unshaped, violations, refused⟩ |
    ⟨shaped, rules, only, ⟨sound, loads⟩ | ⟨before, rule, after, fault, rfl, _, faulty, fails⟩⟩
  · simp [refused, unshaped]
  · exact iff_of_true ⟨_, loads⟩ ⟨shaped, rules, (only rules).mpr rfl, sound⟩
  · refine iff_of_false (by simp [fails]) ?_
    rintro ⟨_, rules, lists, sound⟩
    cases (only rules).mp lists
    exact faulty.not_sound_append sound

theorem ofJson_eq_invalid_iff {source : String} {json : Json} :
    (∃ violations, ofJson source json = .error (.invalid source violations)) ↔
      ¬ Shape.file json := by
  rcases ofJson_cases source json with ⟨unshaped, refused⟩ |
    ⟨shaped, _, _, ⟨_, loads⟩ | ⟨_, _, _, _, _, _, faulty, fails⟩⟩
  · exact iff_of_true refused unshaped
  · simp [loads, shaped]
  · cases faulty <;> simp [fails, shaped]

theorem ofJson_ne_untyped (source other : String) (json : Json) :
    ofJson source json ≠ .error (.untyped other) := by
  rcases ofJson_cases source json with ⟨_, violations, refused⟩ |
    ⟨_, _, _, ⟨_, loads⟩ | ⟨_, _, _, _, _, _, faulty, fails⟩⟩
  · simp [refused]
  · simp [loads]
  · cases faulty <;> simp [fails]

/-- A value loads exactly if it satisfies the schema, all descriptors in it can be read and no key
comes twice. The rulebook then holds the rules that the value lists and no others, and otherwise the
fault is about the first rule that does not go with those before it. -/
theorem ofJson_loads_sound_files (source : String) (json : Json) :
    ((∃ book, ofJson source json = .ok book) ↔
        Shape.file json ∧ ∃ rules, Lists json rules ∧ Sound rules) ∧
      (∀ other, ofJson source json ≠ .error (.untyped other)) ∧
      ((∃ violations, ofJson source json = .error (.invalid source violations)) ↔
        ¬ Shape.file json) ∧
      (Shape.file json → ∃ rules, ListsOnly json rules ∧
        (∀ book, ofJson source json = .ok book → book.size = rules.length ∧
          (∀ rule ∈ rules, book.find? rule.key = some rule.templates) ∧
          ∀ key, key ∉ keys rules → book.find? key = none) ∧
        ∀ fault, ofJson source json = .error fault → ∃ before rule after,
          rules = before ++ rule :: after ∧ Sound before ∧ Faulty source before rule fault) ∧
      ∀ text, Json.parse text = .ok json → load source text = ofJson source json := by
  refine ⟨exists_ofJson_iff, fun other => ofJson_ne_untyped source other json,
    ofJson_eq_invalid_iff, fun shaped => ?_, fun text parses => ?_⟩
  · rcases ofJson_cases source json with ⟨unshaped, _⟩ |
      ⟨_, rules, only, ⟨sound, loads⟩ | ⟨before, rule, after, fault, split, sound, faulty, fails⟩⟩
    · exact (unshaped shaped).elim
    · refine ⟨rules, only, fun book same => ?_, fun fault same => ?_⟩
      · cases loads.symm.trans same
        exact ⟨rfl, fun rule member => find?_of_mem sound.2 member,
          fun key absent => find?_eq_none_iff.mpr absent⟩
      · cases loads.symm.trans same
    · refine ⟨rules, only, fun book same => ?_, fun other same => ?_⟩
      · cases fails.symm.trans same
      · cases fails.symm.trans same
        exact ⟨before, rule, after, split, sound, faulty⟩
  · rw [load, parses]

/-- A rule for one overload and one for all of them go together, but the latter not with itself. -/
theorem ofJson_loads_sound_files_overloads :
    let permissions : Json := .array [.object [("kind", .string "P"),
      ("target", .object [("literal", .string "a")])]]
    let one : Json := .object [("owner", .string "F"), ("name", .string "open"),
      ("descriptor", .string "()V"), ("permissions", permissions)]
    let any : Json := .object [("owner", .string "F"), ("name", .string "open"),
      ("permissions", permissions)]
    let file (entries : List Json) : Json := .object [("entries", .array entries)]
    Shape.file (file [one, any]) ∧ (∃ book, ofJson "rules" (file [one, any]) = .ok book) ∧
      Shape.file (file [one, any, any]) ∧
      ¬ ∃ book, ofJson "rules" (file [one, any, any]) = .ok book := by
  intro permissions one any file
  let templates : List Template := [⟨"P", .literal "a", ""⟩]
  have described : ∃ items, some permissions = some (.array items) ∧
      List.Forall₂ DescribesTemplate items templates :=
    ⟨_, rfl, .cons ⟨rfl, ⟨_, rfl, .literal rfl⟩, .inr ⟨rfl, rfl⟩⟩ .nil⟩
  have first : DescribesRule one ⟨⟨"F", "open", some "()V"⟩, templates⟩ :=
    ⟨rfl, rfl, rfl, described⟩
  have second : DescribesRule any ⟨⟨"F", "open", none⟩, templates⟩ := ⟨rfl, rfl, rfl, described⟩
  have shaped : Shape.file (file [one, any]) :=
    (Schema.accepts_file _).mp (List.isEmpty_iff.mp (by decide))
  have shapedToo : Shape.file (file [one, any, any]) :=
    (Schema.accepts_file _).mp (List.isEmpty_iff.mp (by decide))
  refine ⟨shaped, ?_, shapedToo, ?_⟩
  · refine (ofJson_loads_sound_files "rules" (file [one, any])).1.mpr
      ⟨shaped, _, ⟨_, rfl, .cons first (.cons second .nil)⟩, ?_, by decide⟩
    simp only [List.forall_mem_cons, Key.Readable]
    refine ⟨?_, ?_, List.forall_mem_nil _⟩
    · rintro _ ⟨⟩
      exact ⟨_, parse_procedure⟩
    · rintro _ ⟨⟩
  · obtain ⟨accepts, _, _, lists, _⟩ := ofJson_loads_sound_files "rules" (file [one, any, any])
    obtain ⟨_, only, _⟩ := lists shapedToo
    rw [accepts]
    rintro ⟨_, rules, listed, sound⟩
    cases (only rules).mp listed
    cases (only _).mp ⟨_, rfl, .cons first (.cons second (.cons second .nil))⟩
    exact absurd sound.2 (by decide)

end GrantSurvey.Rulebook
