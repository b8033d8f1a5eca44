import GrantSurvey.Proofs.PolicyLines
import GrantSurvey.Proofs.SoundTree

/-!
# Joined paths

A relative path that is made of the names on the way to a node can be joined to the path of a
directory. The parts of the joined path are those of both, so it is walked like the first path and
then name by name, and it leads to the node. The one thing that can go wrong is its length.
-/

namespace GrantSurvey

/-! ## The parts of joined paths -/

namespace Text

theorem endsWith_iff {text ending : String} :
    text.endsWith ending = true ↔ ending.toList <:+ text.toList := by
  rw [String.endsWith_eq_endsWith_toSlice, String.Slice.endsWith_string_iff, String.copy_toSlice]

end Text

namespace Path

theorem parts_append_slash (base entry : String) :
    parts (base ++ "/" ++ entry) = parts base ++ parts entry := by
  have whole : (base ++ "/" ++ entry).toList = base.toList ++ '/' :: entry.toList := by simp
  rw [parts, whole, Text.split_append_divider, List.map_append]
  rfl

theorem parts_of_slashless {name : String} (slashless : '/' ∉ name.toList) :
    parts name = [name] := by
  rw [parts, Text.split_of_not_mem slashless, List.map_singleton, String.ofList_toList]

/-- The parts of a path are the names that it was made of. -/
theorem parts_intercalate {place : List String} (below : place ≠ [])
    (slashless : ∀ name ∈ place, '/' ∉ name.toList) : parts ("/".intercalate place) = place := by
  induction place with
  | nil => exact (below rfl).elim
  | cons name place ih =>
      obtain ⟨first, others⟩ := List.forall_mem_cons.mp slashless
      cases place with
      | nil => rw [String.intercalate_singleton, parts_of_slashless first]
      | cons second place =>
          rw [String.intercalate_cons_cons, parts_append_slash, parts_of_slashless first,
            ih (by simp) others]
          rfl

theorem isAbsolute_iff {path : String} :
    isAbsolute path = true ↔ ∃ rest, path.toList = '/' :: rest := by
  rw [isAbsolute, String.startsWith_string_iff]
  exact exists_congr fun rest => eq_comm

theorem isAbsolute_append {path : String} (given : path ≠ "") (rest : String) :
    isAbsolute (path ++ rest) = isAbsolute path := by
  rw [Bool.eq_iff_iff, isAbsolute_iff, isAbsolute_iff, String.toList_append]
  cases start : path.toList with
  | nil => exact (given (String.toList_eq_nil_iff.mp start)).elim
  | cons char others => simp

/-- Joining a relative path puts its parts behind those of the base, but for the empty part that a
slash at the end of the base leaves. -/
theorem exists_parts_join {path entry : String} (given : path ≠ "")
    (relative : isAbsolute entry = false) : ∃ front idle, parts path = front ++ idle ∧
      (∀ part ∈ idle, isIdle part = true) ∧ parts (join path entry) = front ++ parts entry := by
  have filled : path.isEmpty = false := by simpa using given
  rw [join, relative, filled, if_neg Bool.false_ne_true, Bool.false_or]
  split
  · next slash =>
      obtain ⟨front, whole⟩ := Text.endsWith_iff.mp slash
      have whole : path = String.ofList front ++ "/" := by
        rw [← String.ofList_toList (s := path), ← whole, String.ofList_append]
        rfl
      refine ⟨parts (String.ofList front), [""], ?_, by simp [isIdle], ?_⟩
      · rw [whole, ← String.append_empty (s := String.ofList front ++ "/"), parts_append_slash]
        rfl
      · rw [whole, parts_append_slash]
  · exact ⟨parts path, [], by simp, by simp, parts_append_slash path entry⟩

theorem isAbsolute_join {path entry : String} (given : path ≠ "")
    (relative : isAbsolute entry = false) : isAbsolute (join path entry) = isAbsolute path := by
  rw [join, relative, if_neg Bool.false_ne_true]
  split
  · exact isAbsolute_append given entry
  · rw [String.append_assoc, isAbsolute_append given]

theorem utf8ByteSize_join_le (path entry : String) :
    (join path entry).utf8ByteSize ≤ path.utf8ByteSize + 1 + entry.utf8ByteSize := by
  have slash : "/".utf8ByteSize = 1 := rfl
  rw [join]
  split
  · omega
  · split
    · rw [String.utf8ByteSize_append]
      omega
    · rw [String.utf8ByteSize_append, String.utf8ByteSize_append, slash]

end Path

namespace FileSystem

/-! ## Going on from a directory -/

theorem isAbsolute_intercalate {place : List String} (below : place ≠ [])
    (names : ∀ name ∈ place, IsFileName name) :
    Path.isAbsolute ("/".intercalate place) = false := by
  rw [Bool.eq_false_iff]
  intro absolute
  obtain ⟨rest, slash⟩ := Path.isAbsolute_iff.mp absolute
  have parts := Path.parts_intercalate below fun name member => (names name member).slashless
  -- A slash at the start would leave an empty part before it.
  rw [Path.parts, slash] at parts
  have first : "" ∈ place := parts ▸ List.mem_cons_self
  exact (names "" first).ne_empty rfl

theorem nul_not_mem_intercalate {place : List String} (names : ∀ name ∈ place, IsFileName name) :
    Char.ofNat 0 ∉ ("/".intercalate place).toList := by
  induction place with
  | nil => simp
  | cons name place ih =>
      obtain ⟨first, others⟩ := List.forall_mem_cons.mp names
      cases place with
      | nil => simpa using first.nulless
      | cons second place =>
          rw [String.intercalate_cons_cons]
          simp only [String.toList_append, List.mem_append, not_or]
          exact ⟨⟨first.nulless, by decide⟩, ih others⟩

theorem checkText_eq_ok_iff {path : String} :
    checkText path = .ok () ↔ Char.ofNat 0 ∉ path.toList ∧ path ≠ "" := by
  rw [checkText]
  split
  · simp_all
  · split <;> simp_all

theorem mem_join {char : Char} {path entry : String}
    (member : char ∈ (Path.join path entry).toList) :
    char = '/' ∨ char ∈ path.toList ∨ char ∈ entry.toList := by
  rw [Path.join] at member
  split at member
  · exact .inr (.inr member)
  · split at member
    · rw [String.toList_append, List.mem_append] at member
      exact .inr member
    · rw [String.toList_append, String.toList_append, List.mem_append, List.mem_append] at member
      rcases member with (inside | slash) | inside
      · exact .inr (.inl inside)
      · exact .inl (List.mem_singleton.mp slash)
      · exact .inr (.inr inside)

theorem checkText_join {path : String} {place : List String} (fit : checkText path = .ok ())
    (below : place ≠ []) (names : ∀ name ∈ place, IsFileName name) :
    checkText (Path.join path ("/".intercalate place)) = .ok () := by
  obtain ⟨nulless, given⟩ := checkText_eq_ok_iff.mp fit
  refine checkText_eq_ok_iff.mpr ⟨fun member => ?_, ?_⟩
  · rcases mem_join member with slash | inside | inside
    · exact absurd slash (by decide)
    · exact nulless inside
    · exact nul_not_mem_intercalate names inside
  · rw [Path.join, isAbsolute_intercalate below names, if_neg Bool.false_ne_true]
    split <;> simp [given]

/-- A path below a readable one can only be too long. -/
theorem checkPath_join {path : String} {place : List String} (fit : checkText path = .ok ())
    (below : place ≠ []) (names : ∀ name ∈ place, IsFileName name) :
    checkPath (Path.join path ("/".intercalate place)) =
      if pathLimit < (Path.join path ("/".intercalate place)).utf8ByteSize then
        .error .nameTooLong
      else .ok () := by
  rw [checkPath, checkText_join fit below names]
  rfl

/-- A walk along the front of a path either fails, whatever follows, or what follows is walked from
where it stands then. -/
theorem walkBy_append (kinds : List String → Option Kind) (links : Nat)
    (here front : List String) :
    (∃ fault, ∀ rest, walkBy kinds links here (front ++ rest) = .error fault) ∨
    ∃ left middle, ∀ rest,
      walkBy kinds links here (front ++ rest) = walkBy kinds left middle rest := by
  fun_induction walkBy kinds links here front with
  | case1 links here => exact .inr ⟨links, here, fun _ => rfl⟩
  | case2 links here name pending directory idle ih =>
      have step (rest : List String) : walkBy kinds links here (name :: pending ++ rest) =
          walkBy kinds links here (pending ++ rest) := by
        rw [List.cons_append, walkBy, if_pos directory, if_pos idle]
      simpa only [step] using ih
  | case3 links here name pending directory idle up ih =>
      have step (rest : List String) : walkBy kinds links here (name :: pending ++ rest) =
          walkBy kinds links here.dropLast (pending ++ rest) := by
        rw [List.cons_append, walkBy, if_pos directory, if_neg idle, if_pos up]
      simpa only [step] using ih
  | case8 links here name pending directory idle up short target entry spare full ih =>
      have step (rest : List String) : walkBy kinds links here (name :: pending ++ rest) =
          walkBy kinds (links - 1) (start here target) (Path.parts target ++ pending ++ rest) := by
        rw [List.cons_append, walkBy, if_pos directory, if_neg idle, if_neg up, if_neg short, entry,
          List.append_assoc]
        simp only [spare, full, ↓reduceIte, Bool.false_eq_true]
      simpa only [step] using ih
  | case9 links here name pending directory idle up short kind plain entry ih =>
      have step (rest : List String) : walkBy kinds links here (name :: pending ++ rest) =
          walkBy kinds links (here ++ [name]) (pending ++ rest) := by
        rw [List.cons_append, walkBy_into directory idle up short entry plain]
      simpa only [step] using ih
  | case4 links here name pending directory idle up long =>
      refine .inl ⟨.nameTooLong, fun rest => ?_⟩
      rw [List.cons_append, walkBy, if_pos directory, if_neg idle, if_neg up, if_pos long]
  | case5 links here name pending directory idle up short missing =>
      refine .inl ⟨.notFound, fun rest => ?_⟩
      rw [List.cons_append, walkBy, if_pos directory, if_neg idle, if_neg up, if_neg short, missing]
  | case6 here name pending directory idle up short target entry =>
      refine .inl ⟨.tooManyLinks, fun rest => ?_⟩
      rw [List.cons_append, walkBy, if_pos directory, if_neg idle, if_neg up, if_neg short, entry]
      rfl
  | case7 links here name pending directory idle up short target entry spare empty =>
      refine .inl ⟨.notFound, fun rest => ?_⟩
      rw [List.cons_append, walkBy, if_pos directory, if_neg idle, if_neg up, if_neg short, entry]
      simp only [spare, empty, ↓reduceIte]
  | case10 links here name pending missing =>
      refine .inl ⟨.notDirectory, fun rest => ?_⟩
      rw [List.cons_append, walkBy, if_neg missing]

theorem walkBy_idle {kinds : List String → Option Kind} {links : Nat}
    {here idle place : List String} (all : ∀ part ∈ idle, Path.isIdle part = true)
    (reaches : walkBy kinds links here idle = .ok place) : place = here := by
  induction idle with
  | nil =>
      rw [walkBy] at reaches
      cases reaches
      rfl
  | cons part idle ih =>
      obtain ⟨first, others⟩ := List.forall_mem_cons.mp all
      rw [walkBy, if_pos first] at reaches
      split at reaches
      · exact ih others reaches
      · cases reaches

/-- A path that goes on below a place is walked from there. -/
theorem exists_resolve_join {system : FileSystem} {path : String} {here place : List String}
    (resolves : system.resolve path = .ok here) (below : place ≠ [])
    (names : ∀ name ∈ place, IsFileName name) :
    ∃ links, system.resolve (Path.join path ("/".intercalate place)) =
      walkBy system.root.kindAt links here place := by
  obtain ⟨⟨⟩, fit, walks⟩ := Outcome.bind_eq_ok_iff.mp resolves
  obtain ⟨-, given⟩ := checkText_eq_ok_iff.mp fit
  have relative := isAbsolute_intercalate below names
  obtain ⟨front, idle, parts, all, joined⟩ := Path.exists_parts_join given relative
  rw [walk_eq_walkBy, parts] at walks
  rw [Path.parts_intercalate below fun name member => (names name member).slashless] at joined
  rw [FileSystem.resolve, checkText_join fit below names, Outcome.ok_bind, walk_eq_walkBy, joined,
    start, Path.isAbsolute_join given relative, ← start]
  rcases walkBy_append system.root.kindAt linkLimit (start system.here path) front with
    ⟨fault, fails⟩ | ⟨left, middle, goesOn⟩
  · rw [fails] at walks
    cases walks
  · rw [goesOn] at walks
    exact ⟨left, by rw [goesOn, walkBy_idle all walks]⟩

/-- From a directory of a sound tree, the names that lead to a node below it are walked one by one,
unless the node is a link. -/
theorem walkBy_descend {root node found : Node} {here place : List String} (links : Nat)
    (stands : root.find? here = some node) (sound : node.Sound)
    (leads : node.find? place = some found) (plain : ∀ target, found ≠ .link target) :
    walkBy root.kindAt links here place = .ok (here ++ place) := by
  induction place generalizing here node with
  | nil => rw [walkBy, List.append_nil]
  | cons name place ih =>
      cases sound with
      | @directory entries apart names below =>
          obtain ⟨child, member, leads⟩ := (Node.find?_cons_eq_some_iff apart).mp leads
          have fit := names _ member
          have entry : root.find? (here ++ [name]) = some child := by
            rw [Node.find?_concat stands, (Node.lookup_eq_some_iff apart).mpr member]
          have stays : ∀ target, child.kind ≠ .link target := by
            intro target same
            cases child with
            | link =>
                cases place with
                | nil =>
                    rw [Node.find?_nil] at leads
                    exact plain _ (Option.some.inj leads).symm
                | cons => cases leads
            | file | directory | special => cases same
          rw [walkBy_into (Node.kindAt_of_directory stands) (Bool.not_eq_true _ ▸ fit.notIdle)
            (by simpa using fit.notUp) (Nat.not_lt.mpr fit.short)
            (by rw [Node.kindAt, entry]; rfl) stays, ih entry (below _ member) leads]
          simp
      | file | link | special => cases leads

theorem place_of_find {system : FileSystem} {path : String} {node : Node}
    (finds : system.find path = .ok node) : checkText path = .ok () ∧
      ∃ here, system.resolve path = .ok here ∧ system.root.find? here = some node := by
  obtain ⟨⟨⟩, fit, finds⟩ := Outcome.bind_eq_ok_iff.mp finds
  obtain ⟨⟨⟩, fit, -⟩ := Outcome.bind_eq_ok_iff.mp fit
  obtain ⟨here, resolves, finds⟩ := Outcome.bind_eq_ok_iff.mp finds
  refine ⟨fit, here, resolves, ?_⟩
  split at finds
  · next found stands =>
      cases finds
      exact stands
  · cases finds

/-- A path that goes on from where a node of a sound tree was found finds what is below the node,
unless it is too long. -/
theorem find_join {system : FileSystem} {path : String} {node found : Node} {place : List String}
    (finds : system.find path = .ok node) (sound : node.Sound) (below : place ≠ [])
    (leads : node.find? place = some found) (plain : ∀ target, found ≠ .link target) :
    system.find (Path.join path ("/".intercalate place)) =
      if pathLimit < (Path.join path ("/".intercalate place)).utf8ByteSize then
        .error .nameTooLong
      else .ok found := by
  obtain ⟨fit, here, resolves, stands⟩ := place_of_find finds
  obtain ⟨-, names⟩ := sound.of_find? leads
  obtain ⟨links, joined⟩ := exists_resolve_join resolves below names
  rw [FileSystem.find, checkPath_join fit below names]
  split
  · rfl
  · rw [Outcome.ok_bind, joined, walkBy_descend links stands sound leads plain, Outcome.ok_bind,
      Node.find?_append, stands, Option.bind_some, leads]

theorem read_join {system : FileSystem} {path : String} {node : Node} {place : List String}
    {bytes : List UInt8} (finds : system.find path = .ok node) (sound : node.Sound)
    (below : place ≠ []) (content : node.contentAt place = some bytes) :
    system.read (Path.join path ("/".intercalate place)) =
      if pathLimit < (Path.join path ("/".intercalate place)).utf8ByteSize then
        .error .nameTooLong
      else .ok bytes := by
  have leads := Node.contentAt_eq_some_iff.mp content
  rw [FileSystem.read, find_join finds sound below leads (by simp)]
  split <;> rfl

end FileSystem

end GrantSurvey
