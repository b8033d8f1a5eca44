import GrantSurvey.Opening
import GrantSurvey.Proofs.Outcome
import GrantSurvey.Proofs.StableOrder
import GrantSurvey.Rulebook.Builtin
import GrantSurvey.Survey

/-!
# Surveys entry by entry

An archive is surveyed in batches, yet the size of the batches leaves no trace: a survey is the
sequence of the surveys of the single entries. What one entry yields, or that it fails, therefore
has no effect on what the others contribute.
-/

namespace GrantSurvey

namespace ArchiveScan

def append (first second : ArchiveScan) : ArchiveScan where
  findings := first.findings ++ second.findings
  classCount := first.classCount + second.classCount
  diagnostics := first.diagnostics ++ second.diagnostics

theorem append_empty (scan : ArchiveScan) : scan.append empty = scan := by
  simp [append, empty]

theorem append_assoc (first second third : ArchiveScan) :
    (first.append second).append third = first.append (second.append third) := by
  simp [append, Nat.add_assoc]

/-- Recording a result appends what the result amounts to on its own. -/
theorem record_eq_append (scan : ArchiveScan) (result : Except Diagnostic (List Finding)) :
    scan.record result = scan.append (empty.record result) := by
  cases result <;> simp [record, append, empty]

theorem foldl_record_eq_append (scan : ArchiveScan)
    (results : List (Except Diagnostic (List Finding))) :
    results.foldl record scan = scan.append (results.foldl record empty) := by
  induction results generalizing scan with
  | nil => exact (append_empty scan).symm
  | cons result results ih =>
      calc (result :: results).foldl record scan
          = (scan.record result).append (results.foldl record empty) := ih (scan.record result)
        _ = scan.append ((empty.record result).append (results.foldl record empty)) := by
            rw [record_eq_append scan, append_assoc]
        _ = scan.append ((result :: results).foldl record empty) := by
            rw [← ih (empty.record result), List.foldl_cons]

end ArchiveScan

/-! ## Batches -/

/-- However many entries are taken at a time, they are recorded one after the other. -/
theorem examineBatches_eq_foldl (book : Rulebook) (module : String) {size : Nat}
    (positive : 0 < size) (scan : ArchiveScan) (entries : List Archive.Entry) :
    examineBatches book module size scan entries =
      (entries.map (Archive.Entry.examine book module)).foldl ArchiveScan.record scan := by
  induction scan, entries using examineBatches.induct book module size with
  | case1 scan entries stops =>
      have done : entries = [] := stops.resolve_left (Nat.ne_of_gt positive)
      rw [examineBatches, dif_pos stops, done, List.map_nil, List.foldl_nil]
  | case2 scan entries goes results ih =>
      rw [examineBatches, dif_neg goes, ih, ← List.foldl_append, ← List.map_append,
        List.take_append_drop]

namespace Archive

def yields (book : Rulebook) (module : String) (entries : List Entry) : List (List Finding) :=
  entries.filterMap fun entry => (entry.examine book module).toOption

def Entry.failure? (book : Rulebook) (module : String) (entry : Entry) : Option Diagnostic :=
  match entry.examine book module with
  | .ok _ => none
  | .error diagnostic => some diagnostic

def surveyOf (book : Rulebook) (module : String) (entries : List Entry) : ArchiveScan :=
  (entries.map (Entry.examine book module)).foldl ArchiveScan.record .empty

section

variable (book : Rulebook) (module : String)

theorem examineBatches_eq_surveyOf {size : Nat} (positive : 0 < size) (entries : List Entry) :
    examineBatches book module size .empty entries = surveyOf book module entries :=
  examineBatches_eq_foldl book module positive .empty entries

theorem surveyOf_append (first second : List Entry) :
    surveyOf book module (first ++ second) =
      (surveyOf book module first).append (surveyOf book module second) := by
  rw [surveyOf, List.map_append, List.foldl_append, ArchiveScan.foldl_record_eq_append]
  rfl

theorem surveyOf_cons (entry : Entry) (entries : List Entry) :
    surveyOf book module (entry :: entries) =
      (surveyOf book module [entry]).append (surveyOf book module entries) :=
  surveyOf_append book module [entry] entries

/-- A survey lists what the readable entries yield and why the others are not readable, and counts
the readable ones. -/
theorem surveyOf_eq (entries : List Entry) :
    surveyOf book module entries =
      ⟨(yields book module entries).flatten, (yields book module entries).length,
        entries.filterMap (Entry.failure? book module)⟩ := by
  induction entries with
  | nil => rfl
  | cons entry entries ih =>
      rw [surveyOf_cons, ih]
      cases result : entry.examine book module with
      | ok findings =>
          simp [surveyOf, yields, Entry.failure?, result, ArchiveScan.record, ArchiveScan.append,
            ArchiveScan.empty, Except.toOption, Nat.add_comm]
      | error diagnostic =>
          simp [surveyOf, yields, Entry.failure?, result, ArchiveScan.record, ArchiveScan.append,
            ArchiveScan.empty, Except.toOption]

/-- Every entry either yields something or fails. -/
theorem length_yields_add_failures (entries : List Entry) :
    (yields book module entries).length + (entries.filterMap (Entry.failure? book module)).length =
      entries.length := by
  induction entries with
  | nil => rfl
  | cons entry entries ih =>
      cases result : entry.examine book module with
      | ok findings =>
          simp only [yields, List.filterMap_cons, result, Except.toOption, Entry.failure?,
            List.length_cons] at ih ⊢
          omega
      | error diagnostic =>
          simp only [yields, List.filterMap_cons, result, Except.toOption, Entry.failure?,
            List.length_cons] at ih ⊢
          omega

end

/-! ## Opened archives -/

/-- Names in their order. -/
theorem isRanking_name : IsRanking fun first second : String => decide (first ≤ second) where
  trans first second third := by simpa using String.le_trans
  total first second := by simpa using String.le_total first second
  antisymm first second := by simpa using String.le_antisymm

def InNameOrder (entries : List Entry) : Prop :=
  entries.Pairwise fun first second => first.name ≤ second.name

theorem inNameOrder_orderByName (entries : List Entry) : InNameOrder (orderByName entries) :=
  (stablyOrdered_mergeSort isRanking_name Entry.name entries).ascending.imp of_decide_eq_true

theorem inNameOrder_directoryEntries (system : FileSystem) (path : String)
    (node : FileSystem.Node) : InNameOrder (Artifact.directoryEntries system path node) := by
  have ascending := (stablyOrdered_mergeSort isRanking_name id
    ((node.files.map fun place => "/".intercalate place).filter isSurveyed)).ascending
  exact List.pairwise_map.mpr (ascending.imp of_decide_eq_true)

/-- Whatever an artifact is made of, its entries stand in name order. -/
theorem inNameOrder_entries {system : FileSystem} {artifact : Artifact} {entries : List Entry}
    (opens : artifact.entries system = .ok entries) : InNameOrder entries := by
  unfold Artifact.entries at opens
  split at opens
  · obtain ⟨⟨⟩, -, opens⟩ := Outcome.bind_eq_ok_iff.mp opens
    cases opens
    exact inNameOrder_directoryEntries system artifact.path _
  · dsimp only at opens
    split at opens
    · cases opens
      exact List.pairwise_singleton _ _
    · split at opens
      · obtain ⟨bytes, -, opens⟩ := Outcome.bind_eq_ok_iff.mp opens
        obtain ⟨members, -, opens⟩ := Outcome.bind_eq_ok_iff.mp opens
        cases opens
        exact inNameOrder_orderByName _
      · cases opens

theorem inNameOrder_of_archive {system : FileSystem} {artifact : Artifact} {module : String}
    {entries : List Entry} (opens : artifact.archive system = .ok ⟨module, entries⟩) :
    InNameOrder entries := by
  unfold Artifact.archive at opens
  split at opens
  · cases opens
    exact inNameOrder_entries ‹_›
  · cases opens

end Archive

open Archive

/-- Surveying an archive in batches of any positive size, that of the program included, is to survey
its entries one by one in the order in which they were opened, which is that of their names. The
findings are those of the readable entries in a row, the diagnostics are those of the others, and
every entry counts once. Hence the surveys of two lists of entries add up to that of both together,
and an entry, whatever is changed about it, leaves alone what comes of the entries before and after
it. -/
theorem examineArchive_entrywise (book : Rulebook) (module : String) (entries : List Entry) :
    let survey (entries : List Entry) := examineArchive book (.ok ⟨module, entries⟩)
    (∀ size, 0 < size → examineBatches book module size .empty entries = survey entries) ∧
    survey entries =
      entries.foldl (fun scan entry => scan.record (entry.examine book module)) .empty ∧
    (∀ (system : FileSystem) (artifact : Artifact),
      artifact.archive system = .ok ⟨module, entries⟩ →
        entries.Pairwise fun first second => first.name ≤ second.name) ∧
    (survey entries).findings = (yields book module entries).flatten ∧
    (survey entries).diagnostics = entries.filterMap (Entry.failure? book module) ∧
    (survey entries).classCount + (survey entries).diagnostics.length = entries.length ∧
    (∀ others, survey (entries ++ others) = (survey entries).append (survey others)) ∧
    ∀ before changed after, survey (before ++ changed :: after) =
      ((survey before).append (survey [changed])).append (survey after) := by
  intro survey
  have single (entries : List Entry) : survey entries = surveyOf book module entries :=
    examineBatches_eq_surveyOf book module (Nat.succ_pos _) entries
  simp only [single]
  refine ⟨fun size positive => examineBatches_eq_surveyOf book module positive entries, ?_,
    fun system artifact opens => inNameOrder_of_archive opens, ?_, ?_, ?_,
    surveyOf_append book module entries, ?_⟩
  · rw [surveyOf, List.foldl_map]
  · rw [surveyOf_eq]
  · rw [surveyOf_eq]
  · rw [surveyOf_eq]
    exact length_yields_add_failures book module entries
  · intro before changed after
    rw [surveyOf_append, surveyOf_cons, ArchiveScan.append_assoc]

/-- The bytes of a class with one method, which deletes a file. -/
def deletingClass : List UInt8 :=
  [0xCA, 0xFE, 0xBA, 0xBE, 0, 0, 0, 52, 0, 12, 1, 0, 1, 65, 7, 0, 1, 1, 0, 4, 67, 111, 100, 101,
    1, 0, 1, 109, 1, 0, 3, 40, 41, 86, 1, 0, 12, 106, 97, 118, 97, 47, 105, 111, 47, 70, 105, 108,
    101, 7, 0, 6, 1, 0, 6, 100, 101, 108, 101, 116, 101, 1, 0, 3, 40, 41, 90, 12, 0, 8, 0, 9, 10,
    0, 7, 0, 10, 0, 33, 0, 2, 0, 0, 0, 0, 0, 0, 0, 1, 0, 9, 0, 4, 0, 5, 0, 1, 0, 3, 0, 0, 0, 18,
    0, 1, 0, 0, 0, 0, 0, 6, 1, 182, 0, 11, 87, 177, 0, 0, 0, 0, 0, 0]

def deletion : Finding :=
  ⟨"A", "m", "()V", none, [⟨"java.io.FilePermission", "<<ALL FILES>>", "delete"⟩]⟩

theorem examineClass_deletingClass (module entry : String) :
    examineClass .builtin module entry deletingClass = .ok [deletion] := by
  let classFile : ClassFile := ⟨"A", [⟨"m", "()V", [⟨0, .push 1, false⟩,
    ⟨1, .invoke .virtual ⟨"java/io/File", "delete", "()Z"⟩, false⟩, ⟨4, .other 87, false⟩,
    ⟨5, .other 177, false⟩], []⟩]⟩
  have checked : ClassFile.read deletingClass = .ok classFile ∧
      classFile.findings .builtin = [deletion] := by
    decide +kernel
  simp only [examineClass, checked]

/-- Three entries in batches of two, so that the second batch is not full. The first entry cannot be
extracted, the second is a class with a finding, and the third is no class. -/
theorem examineArchive_entrywise_last_batch_short :
    let entries : List Entry := [⟨"A.class", .error "Invalid checksum"⟩,
      ⟨"B.class", .ok deletingClass⟩, ⟨"C.class", .ok []⟩]
    let scan := examineBatches .builtin "a.jar" 2 .empty entries
    let damaged : Diagnostic := .malformedClass "a.jar" "A.class" "Invalid checksum"
    let empty : Diagnostic := .malformedClass "a.jar" "C.class"
      (ClassFile.Fault.message (.within .header (.outOfBounds 0)))
    0 < 2 ∧ scan.findings = [deletion] ∧ scan.diagnostics = [damaged, empty] ∧
      scan.classCount = 1 := by
  intro entries scan damaged empty
  obtain ⟨batches, -, -, findings, diagnostics, counts, -⟩ :=
    examineArchive_entrywise .builtin "a.jar" entries
  have first : Entry.examine .builtin "a.jar" ⟨"A.class", .error "Invalid checksum"⟩ =
      .error damaged := rfl
  have second : Entry.examine .builtin "a.jar" ⟨"B.class", .ok deletingClass⟩ = .ok [deletion] :=
    examineClass_deletingClass "a.jar" "B.class"
  have third : Entry.examine .builtin "a.jar" ⟨"C.class", .ok []⟩ = .error empty := rfl
  have failing : entries.filterMap (Entry.failure? .builtin "a.jar") = [damaged, empty] := by
    simp only [entries, Entry.failure?, List.filterMap_cons, List.filterMap_nil, first, second,
      third]
  have found : (yields .builtin "a.jar" entries).flatten = [deletion] := by
    simp only [entries, yields, List.filterMap_cons, List.filterMap_nil, first, second, third,
      Except.toOption, List.flatten_cons, List.flatten_nil, List.append_nil]
  rw [failing] at diagnostics
  rw [diagnostics] at counts
  have survey : scan = examineArchive .builtin (.ok ⟨"a.jar", entries⟩) := batches 2 Nat.two_pos
  rw [survey]
  exact ⟨Nat.two_pos, findings.trans found, diagnostics, Nat.add_right_cancel counts⟩

end GrantSurvey
