import GrantSurvey.Proofs.FileTree

/-!
# Sound file trees

In a sound tree no directory has two entries of one name, and every name can be a part of a path.
Then a list of the files or of the directories below a node is the same as what is found at the
places of the tree, and the order in which directories hold their entries cannot be seen.
-/

namespace GrantSurvey.FileSystem

/-- Can a name stand in a directory? It is one part of a path, leads to what it names, and is short
enough. -/
structure IsFileName (name : String) : Prop where
  slashless : '/' ∉ name.toList
  nulless : Char.ofNat 0 ∉ name.toList
  notIdle : Path.isIdle name = false
  notUp : name ≠ ".."
  short : name.utf8ByteSize ≤ nameLimit

theorem IsFileName.ne_empty {name : String} (fit : IsFileName name) : name ≠ "" := by
  rintro rfl
  cases fit.notIdle

namespace Node

/-- In every directory below a node, entries differ in their names and the names are fit for one. -/
inductive Sound : Node → Prop where
  | file (content : List UInt8) : Sound (.file content)
  | directory {entries : List (String × Node)} (apart : (entries.map Prod.fst).Nodup)
      (names : ∀ entry ∈ entries, IsFileName entry.1) (below : ∀ entry ∈ entries, Sound entry.2) :
      Sound (.directory entries)
  | link (target : String) : Sound (.link target)
  | special : Sound .special

/-- Where names differ, looking up a name finds the entries themselves. -/
theorem lookup_eq_some_iff {entries : List (String × Node)} (apart : (entries.map Prod.fst).Nodup)
    {name : String} {node : Node} : entries.lookup name = some node ↔ (name, node) ∈ entries := by
  induction entries with
  | nil => simp
  | cons entry entries ih =>
      obtain ⟨first, child⟩ := entry
      obtain ⟨fresh, apart⟩ := List.nodup_cons.mp apart
      rw [List.lookup_cons]
      by_cases same : name = first
      · subst same
        have absent : (name, node) ∉ entries := fun member =>
          fresh (List.mem_map.mpr ⟨_, member, rfl⟩)
        simp [absent, eq_comm]
      · have other : (name == first) = false := by simpa using same
        simp [other, ih apart, same]

theorem find?_cons_eq_some_iff {entries : List (String × Node)}
    (apart : (entries.map Prod.fst).Nodup) {name : String} {place : List String} {node : Node} :
    (directory entries).find? (name :: place) = some node ↔
      ∃ child, (name, child) ∈ entries ∧ child.find? place = some node := by
  rw [find?_directory_cons, Option.bind_eq_some_iff]
  exact exists_congr fun child => and_congr_left' (lookup_eq_some_iff apart)

theorem contentAt_eq_some_iff {root : Node} {place : List String} {bytes : List UInt8} :
    root.contentAt place = some bytes ↔ root.find? place = some (.file bytes) := by
  rw [contentAt, Option.bind_eq_some_iff]
  constructor
  · rintro ⟨node, found, content⟩
    cases node with
    | file => cases content; exact found
    | directory | link | special => cases content
  · exact fun found => ⟨_, found, rfl⟩

namespace Sound

/-- What is found in a sound tree is sound, and so are the names that lead there. -/
theorem of_find? {root node : Node} (sound : root.Sound) {place : List String}
    (found : root.find? place = some node) : node.Sound ∧ ∀ name ∈ place, IsFileName name := by
  induction place generalizing root with
  | nil =>
      rw [find?_nil] at found
      cases found
      exact ⟨sound, by simp⟩
  | cons name place ih =>
      cases sound with
      | directory apart names below =>
          obtain ⟨child, member, found⟩ := (find?_cons_eq_some_iff apart).mp found
          obtain ⟨sound, others⟩ := ih (below _ member) found
          exact ⟨sound, List.forall_mem_cons.mpr ⟨names _ member, others⟩⟩
      | file | link | special => cases found

end Sound

/-! ## Files and directories below a node -/

theorem entriesFiles_eq (entries : List (String × Node)) :
    entriesFiles entries = entries.flatMap fun entry => entry.2.files.map (entry.1 :: ·) := by
  induction entries with
  | nil => rfl
  | cons entry entries ih => rw [entriesFiles, List.flatMap_cons, ih]

theorem entriesDirectories_eq (entries : List (String × Node)) :
    entriesDirectories entries = entries.flatMap fun entry =>
      (if entry.2.isDirectory then [[entry.1]] else []) ++
        entry.2.directories.map (entry.1 :: ·) := by
  induction entries with
  | nil => rfl
  | cons entry entries ih => rw [entriesDirectories, List.flatMap_cons, ih]

namespace Sound

/-- The files of a sound tree are listed by the places at which a file is found. -/
theorem mem_files {node : Node} (sound : node.Sound) {place : List String} :
    place ∈ node.files ↔ ∃ bytes, node.find? place = some (.file bytes) := by
  induction sound generalizing place with
  | file => cases place <;> simp [files, find?]
  | link | special => cases place <;> simp [files, find?]
  | @directory entries apart names below ih =>
      rw [files, entriesFiles_eq, List.mem_flatMap]
      cases place with
      | nil => simp
      | cons name place =>
          simp only [find?_cons_eq_some_iff apart, List.mem_map, List.cons.injEq]
          constructor
          · rintro ⟨⟨_, child⟩, member, _, listed, rfl, rfl⟩
            obtain ⟨bytes, found⟩ := (ih _ member).mp listed
            exact ⟨bytes, child, member, found⟩
          · rintro ⟨bytes, child, member, found⟩
            exact ⟨(name, child), member, place, (ih _ member).mpr ⟨bytes, found⟩, rfl, rfl⟩

/-- The directories listed below a node of a sound tree are those found at the places below it. -/
theorem mem_directories {node : Node} (sound : node.Sound) {place : List String} :
    place ∈ node.directories ↔ place ≠ [] ∧ node.kindAt place = some .directory := by
  rw [kindAt_eq_directory_iff]
  induction sound generalizing place with
  | file => cases place <;> simp [directories, find?]
  | link | special => cases place <;> simp [directories, find?]
  | @directory entries apart names below ih =>
      rw [directories, entriesDirectories_eq, List.mem_flatMap]
      cases place with
      | nil => simp
      | cons name place =>
          simp only [find?_cons_eq_some_iff apart, List.mem_append, List.mem_map, List.cons.injEq,
            ne_eq, reduceCtorEq, not_false_eq_true, true_and]
          constructor
          · rintro ⟨⟨first, child⟩, member, here | ⟨_, listed, rfl, rfl⟩⟩
            · split at here
              · obtain ⟨rfl, rfl⟩ := List.cons.inj (List.mem_singleton.mp here)
                cases child with
                | directory content => exact ⟨content, _, member, find?_nil _⟩
                | file | link | special => contradiction
              · cases here
            · obtain ⟨-, content, found⟩ := (ih _ member).mp listed
              exact ⟨content, child, member, found⟩
          · rintro ⟨content, child, member, found⟩
            refine ⟨(name, child), member, ?_⟩
            cases place with
            | nil =>
                rw [find?_nil] at found
                cases found
                exact .inl (List.mem_singleton_self _)
            | cons second place =>
                exact .inr ⟨_, (ih _ member).mpr ⟨by simp, content, found⟩, rfl, rfl⟩

/-- No file is listed twice. -/
theorem nodup_files {node : Node} (sound : node.Sound) : node.files.Nodup := by
  induction sound with
  | file => exact List.pairwise_singleton _ _
  | link | special => exact .nil
  | @directory entries apart names below ih =>
      rw [files, entriesFiles_eq, List.Nodup, List.pairwise_flatMap]
      constructor
      · intro entry member
        exact List.pairwise_map.mpr ((ih entry member).imp fun differ same =>
          differ (List.cons.inj same).2)
      · -- The places below two entries differ in their first names.
        refine (List.pairwise_map.mp apart).imp ?_
        rintro entry other differ _ listed _ otherListed rfl
        obtain ⟨place, -, start⟩ := List.mem_map.mp listed
        obtain ⟨otherPlace, -, otherStart⟩ := List.mem_map.mp otherListed
        exact differ (List.cons.inj (start.trans otherStart.symm)).1

end Sound

/-! ## Entries in another order -/

/-- Two trees that differ at most in the order in which their directories hold their entries. -/
inductive Rearranged : Node → Node → Prop where
  | refl (node : Node) : Rearranged node node
  | trans {first second third : Node} : Rearranged first second → Rearranged second third →
      Rearranged first third
  | entries {before after : List (String × Node)} (perm : before.Perm after) :
      Rearranged (.directory before) (.directory after)
  | inside {child other : Node} (before : List (String × Node)) (name : String)
      (after : List (String × Node)) : Rearranged child other →
      Rearranged (.directory (before ++ (name, child) :: after))
        (.directory (before ++ (name, other) :: after))

theorem SameAt.refl (root : Node) (place : List String) : SameAt root root place :=
  ⟨rfl, rfl⟩

theorem SameAt.trans {first second third : Node} {place : List String}
    (same : SameAt first second place) (next : SameAt second third place) :
    SameAt first third place :=
  ⟨next.kind.trans same.kind, next.content.trans same.content⟩

/-- Directories are the same everywhere if both have the same below each name. -/
theorem SameAt.of_lookup {before after : List (String × Node)}
    (same : ∀ name place, SameAt (directory before) (directory after) (name :: place))
    (place : List String) : SameAt (directory before) (directory after) place := by
  cases place with
  | nil => exact SameAt.of_directories before after
  | cons name place => exact same name place

section Inside

variable {before after : List (String × Node)} {name : String} {child other : Node}

theorem Sound.inside (sound : Node.Sound (.directory (before ++ (name, child) :: after)))
    (otherSound : other.Sound) : Node.Sound (.directory (before ++ (name, other) :: after)) := by
  cases sound with
  | directory apart names below =>
      obtain ⟨namesBefore, names⟩ := List.forall_mem_append.mp names
      obtain ⟨fit, namesAfter⟩ := List.forall_mem_cons.mp names
      obtain ⟨soundBefore, below⟩ := List.forall_mem_append.mp below
      obtain ⟨-, soundAfter⟩ := List.forall_mem_cons.mp below
      refine .directory (by simpa using apart) ?_ ?_
      · exact List.forall_mem_append.mpr ⟨namesBefore, List.forall_mem_cons.mpr ⟨fit, namesAfter⟩⟩
      · exact List.forall_mem_append.mpr
          ⟨soundBefore, List.forall_mem_cons.mpr ⟨otherSound, soundAfter⟩⟩

theorem SameAt.inside (apart : ((before ++ (name, child) :: after).map Prod.fst).Nodup)
    (same : ∀ place, SameAt child other place) (place : List String) :
    SameAt (directory (before ++ (name, child) :: after))
      (directory (before ++ (name, other) :: after)) place := by
  refine SameAt.of_lookup (fun first place => ?_) place
  by_cases this : first = name
  · subst this
    have otherApart : ((before ++ (first, other) :: after).map Prod.fst).Nodup := by
      simpa using apart
    exact SameAt.below ((lookup_eq_some_iff apart).mpr (by simp))
      ((lookup_eq_some_iff otherApart).mpr (by simp)) (same place)
  · have differ : (first == name) = false := by simpa using this
    refine SameAt.of_find ?_
    simp only [find?_directory_cons, List.lookup_append, List.lookup_cons, differ]

end Inside

/-- A rearranged tree is as sound as it was, and has the same at every place. -/
theorem Rearranged.sound_and_same {node other : Node} (rearranged : Rearranged node other)
    (sound : node.Sound) : other.Sound ∧ ∀ place, SameAt node other place := by
  induction rearranged with
  | refl node => exact ⟨sound, SameAt.refl node⟩
  | trans _ _ firstIh secondIh =>
      obtain ⟨sound, same⟩ := firstIh sound
      obtain ⟨sound, next⟩ := secondIh sound
      exact ⟨sound, fun place => (same place).trans (next place)⟩
  | @entries before after perm =>
      cases sound with
      | directory apart names below =>
          have afterApart : (after.map Prod.fst).Nodup := (perm.map Prod.fst).nodup_iff.mp apart
          refine ⟨.directory afterApart (fun entry member => names entry (perm.mem_iff.mpr member))
            fun entry member => below entry (perm.mem_iff.mpr member), ?_⟩
          refine SameAt.of_lookup fun name place => SameAt.of_find (Option.ext fun found => ?_)
          simp only [find?_cons_eq_some_iff apart, find?_cons_eq_some_iff afterApart, perm.mem_iff]
  | @inside child other before name after _ ih =>
      cases sound with
      | directory apart names below =>
          obtain ⟨otherSound, same⟩ := ih (below (name, child) (by simp))
          exact ⟨(Sound.directory apart names below).inside otherSound, SameAt.inside apart same⟩

end Node

end GrantSurvey.FileSystem
