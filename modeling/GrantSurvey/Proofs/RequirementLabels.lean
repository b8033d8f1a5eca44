import GrantSurvey.Proofs.EntryBatches
import GrantSurvey.Proofs.TestScope
import GrantSurvey.Rulebook.Builtin
import Mathlib.Data.Set.Function

/-!
# Labels of requirements

A label joins a kind and a target by a dot, and both may hold dots themselves. Labels still tell
requirements apart as long as no kind goes on with a dot in another kind. The kinds of a module are
kinds of the rulebook that it was surveyed with, and those of the built-in one are of that sort.
-/

namespace GrantSurvey

def Requirement.key (requirement : Requirement) : String :=
  requirement.kind ++ "." ++ requirement.target

instance : Std.TransOrd Requirement :=
  inferInstanceAs
    (Std.TransCmp (compareLex (compareOn Requirement.kind) (compareOn Requirement.target)))

theorem Requirement.eq_of_compare {first second : Requirement}
    (same : compare first second = .eq) : first = second := by
  have parts : (compare first.kind second.kind).then (compare first.target second.target) = .eq :=
    same
  rw [Ordering.then_eq_eq, Std.compare_eq_iff_eq, Std.compare_eq_iff_eq] at parts
  cases first
  cases second
  simp_all

instance : Std.LawfulEqOrd Requirement where
  eq_of_compare := Requirement.eq_of_compare

/-! ## Kinds that stay apart -/

/-- No kind goes on with a dot in another one. -/
def KindsApart (kinds : List String) : Prop :=
  ∀ first ∈ kinds, ∀ second ∈ kinds, ¬first.toList ++ ['.'] <+: second.toList

instance (kinds : List String) : Decidable (KindsApart kinds) :=
  inferInstanceAs (Decidable (∀ _ ∈ _, ∀ _ ∈ _, ¬_))

theorem KindsApart.mono {kinds others : List String} (apart : KindsApart others)
    (contained : kinds ⊆ others) : KindsApart kinds :=
  fun first member second member' => apart first (contained member) second (contained member')

/-- A text has no two parts before a dot of which neither goes on with a dot in the other. -/
theorem cut_at_dot_inj {kind other target target' : List Char} (apart : ¬kind ++ ['.'] <+: other)
    (apart' : ¬other ++ ['.'] <+: kind) (same : kind ++ '.' :: target = other ++ '.' :: target') :
    kind = other ∧ target = target' := by
  obtain ⟨more, rfl, rest⟩ | ⟨more, rfl, rest⟩ := List.append_eq_append_iff.mp same
  · cases more with
    | nil => simpa using rest
    | cons char more =>
        obtain ⟨rfl, -⟩ := List.cons.inj rest
        exact absurd ⟨more, by simp⟩ apart
  · cases more with
    | nil => simpa using rest.symm
    | cons char more =>
        obtain ⟨rfl, -⟩ := List.cons.inj rest
        exact absurd ⟨more, by simp⟩ apart'

theorem Requirement.key_inj {first second : Requirement}
    (apart : KindsApart [first.kind, second.kind]) (same : first.key = second.key) :
    first = second := by
  have texts : first.kind.toList ++ '.' :: first.target.toList =
      second.kind.toList ++ '.' :: second.target.toList := by
    simpa [Requirement.key] using congrArg String.toList same
  obtain ⟨kind, target⟩ := cut_at_dot_inj (apart _ (by simp) _ (by simp))
    (apart _ (by simp) _ (by simp)) texts
  cases first
  cases second
  simp_all [String.toList_inj]

-- Kinds that do not stay apart share labels.
example : Requirement.key ⟨"a", "b.c"⟩ = Requirement.key ⟨"a.b", "c"⟩ := by decide

namespace ModuleSurvey

/-! ## Labels and requirements of a module -/

def kinds (survey : ModuleSurvey) : List String :=
  survey.permissions.map (·.kind)

theorem mem_requirements {survey : ModuleSurvey} {requirement : Requirement} :
    requirement ∈ survey.requirements ↔
      ∃ permission ∈ survey.permissions, ⟨permission.kind, permission.target⟩ = requirement := by
  rw [requirements, Ordered.mem_ofList, List.mem_map]

theorem mem_keys {survey : ModuleSurvey} {key : String} :
    key ∈ survey.keys ↔ ∃ requirement ∈ survey.requirements, requirement.key = key := by
  rw [keys, Ordered.mem_ofList, List.mem_map]
  constructor
  · rintro ⟨permission, member, rfl⟩
    exact ⟨_, mem_requirements.mpr ⟨permission, member, rfl⟩, rfl⟩
  · rintro ⟨_, member, rfl⟩
    obtain ⟨permission, needed, rfl⟩ := mem_requirements.mp member
    exact ⟨permission, needed, rfl⟩

theorem kind_mem_kinds {survey : ModuleSurvey} {requirement : Requirement}
    (member : requirement ∈ survey.requirements) : requirement.kind ∈ survey.kinds := by
  obtain ⟨permission, needed, rfl⟩ := mem_requirements.mp member
  exact List.mem_map_of_mem needed

theorem injOn_key {survey : ModuleSurvey} (apart : KindsApart survey.kinds) :
    Set.InjOn Requirement.key {requirement | requirement ∈ survey.requirements} := by
  intro first member second member' same
  refine Requirement.key_inj (apart.mono ?_) same
  simp [kind_mem_kinds member, kind_mem_kinds member']

/-- Labels stand for requirements, one for one. -/
theorem bijOn_key {survey : ModuleSurvey} (apart : KindsApart survey.kinds) :
    Set.BijOn Requirement.key {requirement | requirement ∈ survey.requirements}
      {key | key ∈ survey.keys} :=
  ⟨fun requirement member => mem_keys.mpr ⟨requirement, member, rfl⟩, injOn_key apart,
    fun _ member => mem_keys.mp member⟩

/-- Both lists name nothing twice, so they have one length. -/
theorem length_keys {survey : ModuleSurvey} (apart : KindsApart survey.kinds) :
    survey.keys.length = survey.requirements.length := by
  have keysOnce : survey.keys.Nodup := (Ordered.ascending_ofList _).nodup
  have once : survey.requirements.Nodup := (Ordered.ascending_ofList _).nodup
  have labelsOnce : (survey.requirements.map Requirement.key).Nodup :=
    once.map_on fun first member second member' same => injOn_key apart member member' same
  have same : survey.keys.Perm (survey.requirements.map Requirement.key) := by
    rw [List.perm_ext_iff_of_nodup keysOnce labelsOnce]
    intro key
    rw [mem_keys, List.mem_map]
  rw [same.length_eq, List.length_map]

end ModuleSurvey

/-! ## Kinds of a rulebook -/

namespace Rulebook

def kinds (book : Rulebook) : List String :=
  book.rules.flatMap fun rule => rule.templates.map (·.kind)

theorem kind_mem_of_find? {book : Rulebook} {key : Key} {templates : List Template}
    (found : book.find? key = some templates) {template : Template} (member : template ∈ templates) :
    template.kind ∈ book.kinds := by
  obtain ⟨rule, atKey, rfl⟩ := Option.map_eq_some_iff.mp found
  exact List.mem_flatMap.mpr ⟨rule, List.mem_of_find?_eq_some atKey, List.mem_map_of_mem member⟩

theorem kind_mem_of_lookup {book : Rulebook} {symbol : ClassFile.MethodSymbol}
    {template : Template} (member : template ∈ book.lookup symbol) :
    template.kind ∈ book.kinds := by
  unfold lookup at member
  split at member
  · exact kind_mem_of_find? ‹_› member
  · cases found : book.find? ⟨symbol.owner, symbol.name, none⟩ with
    | none => simp [found] at member
    | some templates =>
        rw [found] at member
        exact kind_mem_of_find? found member

/-- Filling in arguments leaves the kind alone. -/
theorem kind_mem_of_require {book : Rulebook} {call : Call} {permission : Permission}
    (member : permission ∈ book.require call) : permission.kind ∈ book.kinds := by
  obtain ⟨template, demanded, rfl⟩ := List.mem_map.mp member
  exact kind_mem_of_lookup demanded

def platformKinds : List String :=
  ["java.awt.AWTPermission", "java.io.FilePermission", "java.io.SerializablePermission",
    "java.lang.RuntimePermission", "java.lang.reflect.ReflectPermission",
    "java.net.NetPermission", "java.net.SocketPermission", "java.security.SecurityPermission",
    "java.util.PropertyPermission", "java.util.logging.LoggingPermission",
    "javax.management.MBeanServerPermission", "javax.security.auth.AuthPermission"]

set_option maxRecDepth 2000 in
theorem kinds_builtin_subset : builtin.kinds ⊆ platformKinds := by
  have listed : builtin.kinds.all platformKinds.contains = true := rfl
  intro kind member
  simpa using List.all_eq_true.mp listed kind member

theorem kindsApart_builtin : KindsApart builtin.kinds := by
  have apart : KindsApart platformKinds := by decide
  exact apart.mono kinds_builtin_subset

end Rulebook

/-! ## Kinds of a surveyed module -/

theorem ClassFile.exists_call_of_mem_findings {book : Rulebook} {classFile : ClassFile}
    {finding : Finding} (member : finding ∈ classFile.findings book) :
    ∃ call : Call, finding.permissions = book.require call := by
  rw [findings, Finding.orderByLine, List.mem_mergeSort, List.mem_flatMap] at member
  obtain ⟨method, -, member⟩ := member
  obtain ⟨call, -, found⟩ := List.mem_filterMap.mp member
  simp only [Finding.ofCall?] at found
  split at found
  · cases found
  · cases found
    exact ⟨call, rfl⟩

theorem Archive.Entry.exists_class_of_examine {book : Rulebook} {module : String}
    {entry : Archive.Entry} {findings : List Finding}
    (yields : (entry.examine book module).toOption = some findings) :
    ∃ classFile : ClassFile, classFile.findings book = findings := by
  unfold examine examineClass at yields
  split at yields
  · split at yields
    · exact ⟨_, Option.some.inj yields⟩
    · cases yields
  · cases yields

/-- Whatever is found in an archive is found in a class. -/
theorem exists_class_of_mem_examineArchive {book : Rulebook} {opened : Except Diagnostic Archive}
    {finding : Finding} (member : finding ∈ (examineArchive book opened).findings) :
    ∃ classFile : ClassFile, finding ∈ classFile.findings book := by
  cases opened with
  | error diagnostic => cases member
  | ok archive =>
      rw [examineArchive, Archive.examineBatches_eq_surveyOf _ _ (by decide), Archive.surveyOf_eq,
        List.mem_flatten] at member
      obtain ⟨findings, listed, member⟩ := member
      obtain ⟨entry, -, yields⟩ := List.mem_filterMap.mp listed
      obtain ⟨classFile, rfl⟩ := entry.exists_class_of_examine yields
      exact ⟨classFile, member⟩

/-- Findings of classes need no kinds but those of the rulebook. -/
theorem ModuleSurvey.kinds_subset {book : Rulebook} {survey : ModuleSurvey}
    (stems : ∀ finding ∈ survey.findings, ∃ classFile : ClassFile,
      finding ∈ classFile.findings book) : survey.kinds ⊆ book.kinds := by
  intro kind member
  obtain ⟨permission, needed, rfl⟩ := List.mem_map.mp member
  obtain ⟨finding, listed, held⟩ := List.mem_flatMap.mp needed
  obtain ⟨classFile, found⟩ := stems finding listed
  obtain ⟨call, permissions⟩ := ClassFile.exists_call_of_mem_findings found
  rw [permissions] at held
  exact Rulebook.kind_mem_of_require held

theorem kindsApart_of_mem_modules {opened : Artifact → Except Diagnostic Archive}
    {project : Option Artifact} {dependencies : List Artifact} {includeTests : Bool}
    {survey : ModuleSurvey}
    (member : survey ∈ (examineProject (fun artifact => examineArchive .builtin (opened artifact))
      project dependencies includeTests).modules) : KindsApart survey.kinds := by
  rw [modules_examineProject] at member
  obtain ⟨artifact, -, rfl⟩ := List.mem_map.mp member
  exact Rulebook.kindsApart_builtin.mono
    (ModuleSurvey.kinds_subset fun _ found => exists_class_of_mem_examineArchive found)

/-- In a module in which no kind goes on with a dot in another one, joining kind and target is a
bijection between the requirements and the labels, whatever the targets are. Every module that is
surveyed with the built-in rulebook is of that sort, whatever its classes are, so it has as many
labels as requirements. -/
theorem keys_stand_for_requirements :
    (∀ survey : ModuleSurvey, KindsApart survey.kinds →
      Set.BijOn (fun requirement => requirement.kind ++ "." ++ requirement.target)
        {requirement | requirement ∈ survey.requirements} {key | key ∈ survey.keys}) ∧
    (∀ (name : String) (scope : Scope) (classes : List ClassFile),
      let survey : ModuleSurvey := ⟨name, scope, classes.flatMap (ClassFile.findings .builtin)⟩
      KindsApart survey.kinds ∧ survey.keys.length = survey.requirements.length) ∧
    ∀ (opened : Artifact → Except Diagnostic Archive) (project : Option Artifact)
      (dependencies : List Artifact) (includeTests : Bool),
      ∀ survey ∈ (examineProject (fun artifact => examineArchive .builtin (opened artifact))
        project dependencies includeTests).modules,
      KindsApart survey.kinds ∧ survey.keys.length = survey.requirements.length := by
  refine ⟨fun survey apart => ModuleSurvey.bijOn_key apart, ?_, ?_⟩
  · intro name scope classes survey
    have stems : ∀ finding ∈ survey.findings, ∃ classFile : ClassFile,
        finding ∈ classFile.findings .builtin := by
      intro finding listed
      obtain ⟨classFile, -, found⟩ := List.mem_flatMap.mp listed
      exact ⟨classFile, found⟩
    have apart : KindsApart survey.kinds :=
      Rulebook.kindsApart_builtin.mono (ModuleSurvey.kinds_subset stems)
    exact ⟨apart, ModuleSurvey.length_keys apart⟩
  · intro opened project dependencies includeTests survey member
    have apart := kindsApart_of_mem_modules member
    exact ⟨apart, ModuleSurvey.length_keys apart⟩

/-- Two kinds with targets that hold dots, one of them twice with different actions, and the module
of an archive that holds a class with a finding. -/
theorem keys_stand_for_requirements_dotted :
    let survey : ModuleSurvey := ⟨"app.jar", .project, [⟨"A", "run", "()V", some 3,
      [⟨"java.io.FilePermission", "/tmp/a.b", "read"⟩, ⟨"java.io.FilePermission", "/tmp/a.b", "write"⟩,
        ⟨"java.lang.RuntimePermission", "a.b", ""⟩]⟩]⟩
    let library : Artifact := ⟨"lib.jar", .compile⟩
    let opened (_ : Artifact) : Except Diagnostic Archive :=
      .ok ⟨"lib.jar", [⟨"A.class", .ok deletingClass⟩]⟩
    let scan (artifact : Artifact) := examineArchive .builtin (opened artifact)
    let surveyed := (scan library).module library
    KindsApart survey.kinds ∧
    Set.BijOn (fun requirement => requirement.kind ++ "." ++ requirement.target)
      {requirement | requirement ∈ survey.requirements} {key | key ∈ survey.keys} ∧
    surveyed ∈ (examineProject scan none [library] false).modules ∧
    surveyed.keys = ["java.io.FilePermission.<<ALL FILES>>"] ∧
    surveyed.keys.length = surveyed.requirements.length := by
  intro survey library opened scan surveyed
  have apart : KindsApart survey.kinds := by decide
  have member : surveyed ∈ (examineProject scan none [library] false).modules := by
    rw [modules_examineProject]
    exact List.mem_singleton_self _
  have examined : Archive.Entry.examine .builtin "lib.jar" ⟨"A.class", .ok deletingClass⟩ =
      .ok [deletion] := examineClass_deletingClass "lib.jar" "A.class"
  have single : scan library = Archive.surveyOf .builtin "lib.jar" [_] :=
    Archive.examineBatches_eq_surveyOf .builtin "lib.jar" (Nat.succ_pos _) _
  have found : surveyed.findings = [deletion] := by
    change (scan library).findings = _
    rw [single, Archive.surveyOf, List.map_singleton, examined]
    rfl
  refine ⟨apart, keys_stand_for_requirements.1 survey apart, member, ?_,
    (keys_stand_for_requirements.2.2 opened none [library] false surveyed member).2⟩
  rw [ModuleSurvey.keys, ModuleSurvey.permissions, found]
  rfl

end GrantSurvey
