import GrantSurvey.Proofs.EntryBatches
import GrantSurvey.Proofs.JoinedPaths

/-!
# Directories as archives

A directory that is opened as an archive lists the class files below it by their relative paths, in
ascending order and each once. An entry is read from the file that it is named for. The order in
which directories hold their entries leaves no trace.
-/

namespace GrantSurvey

/-! ## Reading the directories -/

namespace FileSystem.Node

/-- Can all directories below a node be read, where the node is that of a path? Their paths must not
be too long. -/
def Readable (path : String) (node : Node) : Prop :=
  ∀ place ≠ [], node.kindAt place = some .directory →
    (Path.join path ("/".intercalate place)).utf8ByteSize ≤ pathLimit

theorem checkDirectories_eq_ok_iff {path : String} {node : Node} (fit : checkText path = .ok ())
    (sound : node.Sound) : node.checkDirectories path = .ok () ↔ node.Readable path := by
  rw [checkDirectories, Outcome.forM_eq_ok_iff]
  constructor
  · intro all place below directory
    have listed := sound.mem_directories.mpr ⟨below, directory⟩
    obtain ⟨entries, found⟩ := kindAt_eq_directory_iff.mp directory
    have checked := all place listed
    rw [checkPath_join fit below (sound.of_find? found).2] at checked
    split at checked
    · cases checked
    · exact Nat.not_lt.mp ‹_›
  · intro readable place listed
    obtain ⟨below, directory⟩ := sound.mem_directories.mp listed
    obtain ⟨entries, found⟩ := kindAt_eq_directory_iff.mp directory
    rw [checkPath_join fit below (sound.of_find? found).2,
      if_neg (Nat.not_lt.mpr (readable place below directory))]

theorem Readable.of_same {path : String} {node other : Node}
    (same : ∀ place, SameAt node other place) (readable : node.Readable path) :
    other.Readable path := by
  intro place below directory
  exact readable place below ((same place).kind ▸ directory)

end FileSystem.Node

/-! ## Class names -/

/-- Is a relative path that of a class that is surveyed? Module declarations and the variants for
later releases are left out. -/
structure IsClassName (name : String) : Prop where
  ending : ".class".toList <:+ name.toList
  noModule : ¬"module-info.class".toList <:+ name.toList
  noVariant : ¬"META-INF/versions/".toList <+: name.toList

theorem Archive.isSurveyed_iff {name : String} :
    Archive.isSurveyed name = true ↔ IsClassName name := by
  rw [Archive.isSurveyed]
  simp only [Bool.and_eq_true, Bool.not_eq_true', ← Bool.not_eq_true, Text.endsWith_iff,
    String.startsWith_string_iff]
  constructor
  · rintro ⟨⟨ending, noModule⟩, noVariant⟩
    exact ⟨ending, noModule, noVariant⟩
  · rintro ⟨ending, noModule, noVariant⟩
    exact ⟨⟨ending, noModule⟩, noVariant⟩

namespace FileSystem.Node

/-- The class names below a node are the relative paths of its regular files that are those of
classes. -/
theorem mem_classNames {node : Node} (sound : node.Sound) {name : String} :
    name ∈ node.classNames ↔ IsClassName name ∧
      ∃ place bytes, node.contentAt place = some bytes ∧ "/".intercalate place = name := by
  rw [classNames, (List.mergeSort_perm _ _).mem_iff, List.mem_filter, Archive.isSurveyed_iff,
    and_comm, List.mem_map]
  simp only [sound.mem_files, contentAt_eq_some_iff, exists_and_right]

section Directory

variable {content : List (String × Node)}

theorem ne_nil_of_contentAt {place : List String} {bytes : List UInt8}
    (file : (directory content).contentAt place = some bytes) : place ≠ [] := by
  rintro rfl
  cases file

theorem parts_of_contentAt (sound : (directory content).Sound) {place : List String}
    {bytes : List UInt8} (file : (directory content).contentAt place = some bytes) :
    Path.parts ("/".intercalate place) = place :=
  Path.parts_intercalate (ne_nil_of_contentAt file) fun name member =>
    ((sound.of_find? (contentAt_eq_some_iff.mp file)).2 name member).slashless

/-- Two files have two relative paths. -/
theorem nodup_classNames (sound : (directory content).Sound) :
    (directory content).classNames.Nodup := by
  have apart : ((directory content).files.map fun place => "/".intercalate place).Nodup := by
    refine List.pairwise_map.mpr (sound.nodup_files.imp_of_mem ?_)
    intro place other listed otherListed differ same
    obtain ⟨bytes, found⟩ := sound.mem_files.mp listed
    obtain ⟨otherBytes, otherFound⟩ := sound.mem_files.mp otherListed
    refine differ ?_
    rw [← parts_of_contentAt sound (contentAt_eq_some_iff.mpr found), same,
      parts_of_contentAt sound (contentAt_eq_some_iff.mpr otherFound)]
  exact (List.mergeSort_perm _ _).nodup_iff.mpr (List.Pairwise.filter _ apart)

theorem ascending_classNames (sound : (directory content).Sound) :
    (directory content).classNames.Pairwise (· < ·) := by
  have ascending := (stablyOrdered_mergeSort Archive.isRanking_name id
    (((directory content).files.map fun place => "/".intercalate place).filter
      Archive.isSurveyed)).ascending
  exact ascending.imp₂ (fun _ _ less => Std.lt_of_le_of_ne (of_decide_eq_true less))
    (nodup_classNames sound)

/-- Directories that have the same at every place have the same class names. -/
theorem classNames_eq {other : List (String × Node)} (sound : (directory content).Sound)
    (otherSound : (directory other).Sound)
    (same : ∀ place, SameAt (directory content) (directory other) place) :
    (directory other).classNames = (directory content).classNames := by
  refine Ordered.Ascending.eq_of_mem_iff (.of_pairwise_lt (ascending_classNames otherSound))
    (.of_pairwise_lt (ascending_classNames sound)) fun name => ?_
  simp only [mem_classNames sound, mem_classNames otherSound, (same _).content]

end Directory

end FileSystem.Node

/-! ## Opening a directory -/

open FileSystem (Node)

/-- The entries of a directory that is found along a path. Their names ascend strictly. They are the
relative paths of the regular files that are reached through directories only and have the name of a
class. An entry has the bytes of its file, unless the path of the file is too long to be read. -/
structure Lists (path : String) (node : Node) (entries : List Archive.Entry) : Prop where
  ascending : (entries.map (·.name)).Pairwise (· < ·)
  names : ∀ name, name ∈ entries.map (·.name) ↔ IsClassName name ∧
    ∃ place bytes, node.contentAt place = some bytes ∧ "/".intercalate place = name
  contents : ∀ entry ∈ entries, ∀ place bytes, node.contentAt place = some bytes →
    "/".intercalate place = entry.name → entry.content =
      if FileSystem.pathLimit < (Path.join path entry.name).utf8ByteSize then
        .error FileSystem.Fault.nameTooLong.message
      else .ok bytes

namespace Artifact

variable {system : FileSystem} {artifact : Artifact} {content : List (String × Node)}

theorem fileEntry_join {path : String} {place : List String} {bytes : List UInt8}
    (finds : system.find path = .ok (.directory content)) (sound : Node.Sound (.directory content))
    (file : Node.contentAt (.directory content) place = some bytes) :
    fileEntry system (Path.join path ("/".intercalate place)) ("/".intercalate place) =
      ⟨"/".intercalate place,
        if FileSystem.pathLimit < (Path.join path ("/".intercalate place)).utf8ByteSize then
          .error FileSystem.Fault.nameTooLong.message
        else .ok bytes⟩ := by
  rw [fileEntry, FileSystem.read_join finds sound (Node.ne_nil_of_contentAt file) file]
  split <;> rfl

theorem names_directoryEntries (system : FileSystem) (path : String) (node : Node) :
    (directoryEntries system path node).map (·.name) = node.classNames := by
  rw [directoryEntries, List.map_map]
  exact List.map_id _

theorem lists_directoryEntries {path : String}
    (finds : system.find path = .ok (.directory content))
    (sound : Node.Sound (.directory content)) :
    Lists path (.directory content) (directoryEntries system path (.directory content)) := by
  constructor
  · rw [names_directoryEntries]
    exact Node.ascending_classNames sound
  · intro name
    rw [names_directoryEntries]
    exact Node.mem_classNames sound
  · intro entry member place bytes file same
    obtain ⟨name, -, rfl⟩ := List.mem_map.mp member
    cases same
    exact congrArg Archive.Entry.content (fileEntry_join finds sound file)

/-- The entries of directories that have the same at every place are the same. -/
theorem directoryEntries_eq {other : FileSystem} {otherContent : List (String × Node)}
    {path : String} (finds : system.find path = .ok (.directory content))
    (otherFinds : other.find path = .ok (.directory otherContent))
    (sound : Node.Sound (.directory content)) (otherSound : Node.Sound (.directory otherContent))
    (same : ∀ place, Node.SameAt (.directory content) (.directory otherContent) place) :
    directoryEntries other path (.directory otherContent) =
      directoryEntries system path (.directory content) := by
  rw [directoryEntries, directoryEntries, Node.classNames_eq sound otherSound same]
  refine List.map_congr_left fun name member => ?_
  obtain ⟨-, place, bytes, file, rfl⟩ := (Node.mem_classNames sound).mp member
  rw [fileEntry_join finds sound file,
    fileEntry_join otherFinds otherSound ((same place).content.trans file)]

theorem entries_directory (finds : system.find artifact.path = .ok (.directory content)) :
    artifact.entries system =
      ((Node.checkDirectories artifact.path (.directory content)).mapError
        FileSystem.Fault.message >>= fun _ =>
          .ok (directoryEntries system artifact.path (.directory content))) := by
  rw [Artifact.entries, finds]
  rfl

/-- A directory is opened if and only if the directories below it can be read. -/
theorem archive_directory_eq_ok_iff (finds : system.find artifact.path = .ok (.directory content))
    (sound : Node.Sound (.directory content)) (archive : Archive) :
    artifact.archive system = .ok archive ↔ Node.Readable artifact.path (.directory content) ∧
      archive = ⟨artifact.moduleName,
        directoryEntries system artifact.path (.directory content)⟩ := by
  rw [← Node.checkDirectories_eq_ok_iff (FileSystem.place_of_find finds).1 sound, Artifact.archive,
    entries_directory finds]
  cases Node.checkDirectories artifact.path (.directory content) with
  | error fault =>
      constructor
      · intro impossible
        cases impossible
      · rintro ⟨impossible, -⟩
        cases impossible
  | ok _ =>
      constructor
      · intro opens
        cases opens
        exact ⟨rfl, rfl⟩
      · rintro ⟨-, rfl⟩
        rfl

/-- A directory with a sound tree below it is opened as an archive if and only if the directories of
the tree can be read. In that case the archive lists the class files that are reached through
directories only, in strictly ascending order of their relative paths; links, even those that lead
back up, are not followed. An entry is read from the file of its relative path. Wherever the path
leads to a directory that differs only in the order of entries, at whatever depth, the archive is the
same. -/
theorem archive_lists_class_files (system : FileSystem) (artifact : Artifact)
    (content : List (String × Node)) (finds : system.find artifact.path = .ok (.directory content))
    (sound : Node.Sound (.directory content)) :
    (Node.Readable artifact.path (.directory content) ↔
      ∃ archive, artifact.archive system = .ok archive) ∧
    (Node.Readable artifact.path (.directory content) →
      ∃ entries, artifact.archive system = .ok ⟨artifact.moduleName, entries⟩ ∧
        Lists artifact.path (.directory content) entries ∧
        ∀ (other : FileSystem) (rearranged : List (String × Node)),
          other.find artifact.path = .ok (.directory rearranged) →
          Node.Rearranged (.directory content) (.directory rearranged) →
          artifact.archive other = .ok ⟨artifact.moduleName, entries⟩) := by
  constructor
  · simp only [archive_directory_eq_ok_iff finds sound, exists_and_left, exists_eq, and_true]
  · intro readable
    refine ⟨directoryEntries system artifact.path (.directory content),
      (archive_directory_eq_ok_iff finds sound _).mpr ⟨readable, rfl⟩,
      lists_directoryEntries finds sound, ?_⟩
    intro other rearranged otherFinds rearranging
    obtain ⟨otherSound, same⟩ := rearranging.sound_and_same sound
    refine (archive_directory_eq_ok_iff otherFinds otherSound _).mpr ⟨readable.of_same same, ?_⟩
    rw [directoryEntries_eq finds otherFinds sound otherSound same]

/-- A directory with a class, a module declaration and a link to itself. Below it stands a directory
with another class and a link that leads back up. -/
def application : List (String × Node) :=
  [("Main.class", .file [1]), ("module-info.class", .file []), ("self", .link "."),
    ("lib", .directory [("up", .link ".."), ("Util.class", .file [2]), ("notes.txt", .file [])])]

def shuffledApplication : List (String × Node) :=
  [("self", .link "."), ("Main.class", .file [1]), ("module-info.class", .file []),
    ("lib", .directory [("Util.class", .file [2]), ("notes.txt", .file []), ("up", .link "..")])]

theorem sound_application : Node.Sound (.directory application) := by
  have fits : ∀ name ∈ ["Main.class", "module-info.class", "self", "lib", "up", "Util.class",
      "notes.txt"], FileSystem.IsFileName name := by
    simp only [List.forall_mem_cons]
    refine ⟨?_, ?_, ?_, ?_, ?_, ?_, ?_, by simp⟩ <;>
      exact ⟨by simp, by simp, by decide, by decide, by decide⟩
  have library : Node.Sound (.directory
      [("up", .link ".."), ("Util.class", .file [2]), ("notes.txt", .file [])]) := by
    refine .directory (by decide) ?_ ?_
    · simp only [List.forall_mem_cons]
      exact ⟨fits _ (by simp), fits _ (by simp), fits _ (by simp), by simp⟩
    · simp only [List.forall_mem_cons]
      exact ⟨.link _, .file _, .file _, by simp⟩
  refine .directory (by decide) ?_ ?_
  · simp only [application, List.forall_mem_cons]
    exact ⟨fits _ (by simp), fits _ (by simp), fits _ (by simp), fits _ (by simp), by simp⟩
  · simp only [application, List.forall_mem_cons]
    exact ⟨.file _, .file _, .link _, library, by simp⟩

theorem rearranged_application :
    Node.Rearranged (.directory application) (.directory shuffledApplication) := by
  have library := (List.perm_append_singleton ("up", Node.link "..")
    [("Util.class", .file [2]), ("notes.txt", .file [])]).symm
  refine .trans (.inside [("Main.class", .file [1]), ("module-info.class", .file []),
    ("self", .link ".")] "lib" [] (.entries library)) (.entries ?_)
  exact @List.perm_middle _ ("self", Node.link ".")
    [("Main.class", .file [1]), ("module-info.class", .file [])] _

theorem find_app (content : List (String × Node)) :
    FileSystem.find ⟨.directory [("app", .directory content)], []⟩ "app" =
      .ok (.directory content) := by
  have check : FileSystem.checkPath "app" = .ok () := rfl
  have text : FileSystem.checkText "app" = .ok () := rfl
  have parts : Path.parts "app" = ["app"] := rfl
  have absolute : Path.isAbsolute "app" = false := by simp [Path.isAbsolute]
  have idle : Path.isIdle "app" = false := rfl
  have short : ¬FileSystem.nameLimit < "app".utf8ByteSize := by decide
  simp [FileSystem.find, FileSystem.resolve, check, text, parts, FileSystem.start, absolute,
    FileSystem.walk, idle, short]

theorem readable_application : Node.Readable "app" (.directory application) := by
  intro place below directory
  have listed : place ∈ [["lib"]] := sound_application.mem_directories.mpr ⟨below, directory⟩
  cases List.mem_singleton.mp listed
  exact (Path.utf8ByteSize_join_le _ _).trans (by simp; decide)

theorem archive_lists_class_files_around_loop :
    ∃ entries : List Archive.Entry,
      Artifact.archive ⟨.directory [("app", .directory application)], []⟩ ⟨"app", .project⟩ =
        .ok ⟨"app", entries⟩ ∧
      entries.map (·.name) = ["Main.class", "lib/Util.class"] ∧
      entries.map (·.content) = [.ok [1], .ok [2]] ∧
      Artifact.archive ⟨.directory [("app", .directory shuffledApplication)], []⟩
        ⟨"app", .project⟩ = .ok ⟨"app", entries⟩ := by
  obtain ⟨entries, opens, lists, others⟩ :=
    (archive_lists_class_files _ ⟨"app", .project⟩ application (find_app application)
      sound_application).2 readable_application
  have names : entries.map (·.name) = ["Main.class", "lib/Util.class"] := by
    refine Ordered.Ascending.eq_of_mem_iff (.of_pairwise_lt lists.ascending)
      (.of_pairwise_lt (by decide)) fun name => ?_
    rw [lists.names, List.mem_pair]
    constructor
    · rintro ⟨chosen, place, bytes, file, rfl⟩
      have listed : place ∈ [["Main.class"], ["module-info.class"], ["lib", "Util.class"],
          ["lib", "notes.txt"]] :=
        sound_application.mem_files.mpr ⟨bytes, Node.contentAt_eq_some_iff.mp file⟩
      simp only [List.mem_cons, List.not_mem_nil, or_false] at listed
      rcases listed with rfl | rfl | rfl | rfl
      · exact .inl rfl
      · exact (chosen.noModule (List.suffix_refl _)).elim
      · exact .inr rfl
      · exact absurd chosen.ending (by decide)
    · rintro (rfl | rfl)
      · exact ⟨⟨by decide, by decide, by decide⟩, ["Main.class"], [1], rfl, rfl⟩
      · exact ⟨⟨by decide, by decide, by decide⟩, ["lib", "Util.class"], [2], rfl, rfl⟩
  have short (name : String) (few : name.utf8ByteSize ≤ 20) :
      ¬FileSystem.pathLimit < (Path.join "app" name).utf8ByteSize := by
    have bound := Path.utf8ByteSize_join_le "app" name
    have size : "app".utf8ByteSize = 3 := rfl
    have limit : FileSystem.pathLimit = 4095 := rfl
    omega
  refine ⟨entries, opens, names, ?_, others _ _ (find_app _) rearranged_application⟩
  obtain ⟨first, others, rfl, firstName, names⟩ := List.map_eq_cons_iff.mp names
  obtain ⟨second, others, rfl, secondName, names⟩ := List.map_eq_cons_iff.mp names
  cases List.map_eq_nil_iff.mp names
  have firstContent := lists.contents first (by simp) ["Main.class"] [1] rfl firstName.symm
  have secondContent :=
    lists.contents second (by simp) ["lib", "Util.class"] [2] rfl secondName.symm
  rw [firstName, if_neg (short _ (by decide))] at firstContent
  rw [secondName, if_neg (short _ (by decide))] at secondContent
  simp only [List.map_cons, List.map_nil, firstContent, secondContent]

end Artifact

end GrantSurvey
