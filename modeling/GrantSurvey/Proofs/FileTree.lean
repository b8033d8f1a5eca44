import GrantSurvey.FileSystem.Basic
import GrantSurvey.Proofs.Outcome

/-!
# Places of a file tree

A file tree is seen through what stands at its places: the kind of each node, and the bytes of each
regular file. A walk along a path sees kinds only. Writing a file changes what stands at one place.
-/

namespace GrantSurvey.FileSystem

/-- What kind of node stands at a place. A link is told by its target. -/
inductive Kind where
  | file
  | directory
  | link (target : String)
  | special
  deriving DecidableEq, Repr

namespace Node

def kind : Node → Kind
  | file _ => .file
  | directory _ => .directory
  | link target => .link target
  | special => .special

def content? : Node → Option (List UInt8)
  | file content => some content
  | directory _ => none
  | link _ => none
  | special => none

def kindAt (root : Node) (place : List String) : Option Kind :=
  (root.find? place).map kind

def contentAt (root : Node) (place : List String) : Option (List UInt8) :=
  (root.find? place).bind content?

@[simp]
theorem find?_nil (node : Node) : node.find? [] = some node := by
  cases node <;> rfl

@[simp]
theorem find?_directory_cons (entries : List (String × Node)) (name : String)
    (place : List String) :
    (directory entries).find? (name :: place) = (entries.lookup name).bind (find? · place) := rfl

theorem find?_append (root : Node) (here rest : List String) :
    root.find? (here ++ rest) = (root.find? here).bind (find? · rest) := by
  induction here generalizing root with
  | nil => simp
  | cons name here ih =>
      cases root with
      | directory entries =>
          rw [List.cons_append, find?_directory_cons, find?_directory_cons, Option.bind_assoc]
          exact Option.bind_congr fun child _ => ih child
      | file | link | special => rfl

/-- The entries of a directory are the nodes one name further. -/
theorem find?_concat {root : Node} {here : List String} {entries : List (String × Node)}
    (found : root.find? here = some (directory entries)) (name : String) :
    root.find? (here ++ [name]) = entries.lookup name := by
  rw [find?_append, found, Option.bind_some, find?_directory_cons]
  cases entries.lookup name <;> simp

theorem kindAt_eq_directory_iff {root : Node} {place : List String} :
    root.kindAt place = some .directory ↔
      ∃ entries, root.find? place = some (directory entries) := by
  rw [kindAt]
  constructor
  · intro same
    obtain ⟨node, found, same⟩ := Option.map_eq_some_iff.mp same
    cases node with
    | directory entries => exact ⟨entries, found⟩
    | file | link | special => cases same
  · rintro ⟨entries, found⟩
    rw [found]
    rfl

theorem kindAt_of_directory {root : Node} {here : List String} {entries : List (String × Node)}
    (found : root.find? here = some (directory entries)) : root.kindAt here = some .directory :=
  kindAt_eq_directory_iff.mpr ⟨entries, found⟩

theorem kindAt_ne_directory {root : Node} {here : List String}
    (missing : ∀ entries, root.find? here = some (directory entries) → False) :
    root.kindAt here ≠ some .directory := by
  intro same
  obtain ⟨entries, found⟩ := kindAt_eq_directory_iff.mp same
  exact missing entries found

theorem kindAt_concat {root : Node} {here : List String} {entries : List (String × Node)}
    (found : root.find? here = some (directory entries)) (name : String) :
    root.kindAt (here ++ [name]) = (entries.lookup name).map kind := by
  rw [kindAt, find?_concat found]

/-- Nothing stands below a place that has no directory. -/
theorem find?_below_eq_none {root : Node} {here : List String}
    (plain : root.kindAt here ≠ some .directory) (name : String) (rest : List String) :
    root.find? (here ++ name :: rest) = none := by
  rw [find?_append]
  cases found : root.find? here with
  | none => rfl
  | some node =>
      cases node with
      | directory entries => exact (plain (kindAt_of_directory found)).elim
      | file | link | special => rfl

end Node

/-! ## Walks see kinds -/

/-- The place that the pending parts of a path lead to when the kinds at all places are known. -/
def walkBy (kinds : List String → Option Kind) (links : Nat) (here pending : List String) :
    Except Fault (List String) :=
  match pending with
  | [] => .ok here
  | name :: pending =>
      if kinds here = some .directory then
        if Path.isIdle name then walkBy kinds links here pending
        else if name == ".." then walkBy kinds links here.dropLast pending
        else if nameLimit < name.utf8ByteSize then .error .nameTooLong
        else
          match kinds (here ++ [name]) with
          | none => .error .notFound
          | some (.link target) =>
              if links = 0 then .error .tooManyLinks
              else if target.isEmpty then .error .notFound
              else walkBy kinds (links - 1) (start here target) (Path.parts target ++ pending)
          | some _ => walkBy kinds links (here ++ [name]) pending
      else .error .notDirectory
  termination_by (links, pending.length)

/-- The place in which a file is written when the kinds at all places are known. -/
def walkNewBy (kinds : List String → Option Kind) (links : Nat) (here pending : List String) :
    Except Fault (List String) :=
  match pending with
  | [] => .error .isDirectory
  | name :: pending =>
      if kinds here = some .directory then
        if Path.isIdle name then walkNewBy kinds links here pending
        else if name == ".." then walkNewBy kinds links here.dropLast pending
        else if !pending.isEmpty && pending.all String.isEmpty then .error .isDirectory
        else if nameLimit < name.utf8ByteSize then .error .nameTooLong
        else
          match kinds (here ++ [name]) with
          | none => if pending.isEmpty then .ok (here ++ [name]) else .error .notFound
          | some (.link target) =>
              if links = 0 then .error .tooManyLinks
              else if target.isEmpty then .error .notFound
              else walkNewBy kinds (links - 1) (start here target) (Path.parts target ++ pending)
          | some .directory => walkNewBy kinds links (here ++ [name]) pending
          | some _ =>
              if pending.isEmpty then .ok (here ++ [name]) else .error .notDirectory
      else .error .notDirectory
  termination_by (links, pending.length)

theorem walk_eq_walkBy (root : Node) (links : Nat) (here pending : List String) :
    walk root links here pending = walkBy root.kindAt links here pending := by
  fun_induction walk root links here pending with
  | case1 => rw [walkBy]
  | case10 links here name pending missing =>
      rw [walkBy, if_neg (Node.kindAt_ne_directory missing)]
  | case9 links here name pending entries found idle up short node plain entry ih =>
      rw [walkBy, if_pos (Node.kindAt_of_directory found), if_neg idle, if_neg up, if_neg short,
        Node.kindAt_concat found, entry]
      cases node with
      | link target => exact (plain target rfl).elim
      | file | directory | special => exact ih
  | _ =>
    have at_here := Node.kindAt_of_directory ‹_›
    have at_entry := Node.kindAt_concat ‹_›
    rw [walkBy]
    simp only [*, Option.map_none, Option.map_some, Node.kind, ↓reduceIte, Bool.false_eq_true]

theorem walkNew_eq_walkNewBy (root : Node) (links : Nat) (here pending : List String) :
    walkNew root links here pending = walkNewBy root.kindAt links here pending := by
  fun_induction walkNew root links here pending with
  | case1 => rw [walkNewBy]
  | case14 links here name pending missing =>
      rw [walkNewBy, if_neg (Node.kindAt_ne_directory missing)]
  | case6 | case7 =>
      rename_i found idle up slash short entry last
      rw [walkNewBy, if_pos (Node.kindAt_of_directory found), if_neg idle, if_neg up, if_neg slash,
        if_neg short, Node.kindAt_concat found, entry]
      simp only [Option.map_none, last, ↓reduceIte, Bool.false_eq_true]
  | case12 | case13 =>
      rename_i found idle up slash short node plain file entry last
      rw [walkNewBy, if_pos (Node.kindAt_of_directory found), if_neg idle, if_neg up, if_neg slash,
        if_neg short, Node.kindAt_concat found, entry]
      cases node with
      | link target => exact (plain target rfl).elim
      | directory entries => exact (file entries rfl).elim
      | file | special =>
          simp only [Option.map_some, Node.kind, last, ↓reduceIte, Bool.false_eq_true]
  | _ =>
      have at_here := Node.kindAt_of_directory ‹_›
      have at_entry := Node.kindAt_concat ‹_›
      rw [walkNewBy]
      simp only [*, Option.map_some, Node.kind, ↓reduceIte, Bool.false_eq_true]

/-! ## Places that are written -/

/-- Can a file be written at a place: is its parent a directory, and it neither a directory nor a
link itself? -/
def Writable (kinds : List String → Option Kind) (place : List String) : Prop :=
  ∃ here name, place = here ++ [name] ∧ kinds here = some .directory ∧
    kinds place ≠ some .directory ∧ ∀ target, kinds place ≠ some (.link target)

theorem writable_of_walkNewBy {kinds : List String → Option Kind} {links : Nat}
    {here pending place : List String}
    (reaches : walkNewBy kinds links here pending = .ok place) : Writable kinds place := by
  fun_induction walkNewBy kinds links here pending with
  | case2 | case3 | case10 | case11 =>
      rename_i ih
      exact ih reaches
  | case6 links here name pending directory idle up slash short new last =>
      cases reaches
      exact ⟨here, name, rfl, directory, by simp [new], by simp [new]⟩
  | case12 links here name pending directory idle up slash short kind plain file entry last =>
      cases reaches
      refine ⟨here, name, rfl, directory, ?_, ?_⟩
      · intro same
        exact file (Option.some.inj (entry.symm.trans same))
      · intro target same
        exact plain target (Option.some.inj (entry.symm.trans same))
  | case1 | case4 | case5 | case7 | case8 | case9 | case13 | case14 => cases reaches

/-- A walk goes through a name that stands in a directory and is no link. -/
theorem walkBy_into {kinds : List String → Option Kind} {links : Nat} {here pending : List String}
    {name : String} {kind : Kind} (directory : kinds here = some .directory)
    (idle : ¬Path.isIdle name = true) (up : ¬(name == "..") = true)
    (short : ¬nameLimit < name.utf8ByteSize) (entry : kinds (here ++ [name]) = some kind)
    (plain : ∀ target, kind ≠ .link target) :
    walkBy kinds links here (name :: pending) = walkBy kinds links (here ++ [name]) pending := by
  rw [walkBy, if_pos directory, if_neg idle, if_neg up, if_neg short, entry]
  cases kind with
  | link target => exact (plain target rfl).elim
  | file | directory | special => rfl

/-- Once a node that is no link stands where a path is to be written, the path leads to it. -/
theorem walkBy_of_walkNewBy {kinds after : List String → Option Kind} {links : Nat}
    {here pending place : List String} {kind : Kind}
    (reaches : walkNewBy kinds links here pending = .ok place)
    (same : ∀ other, other ≠ place → after other = kinds other)
    (now : after place = some kind) (plain : ∀ target, kind ≠ .link target) :
    walkBy after links here pending = .ok place := by
  obtain ⟨-, -, -, -, noDirectory, noLink⟩ := writable_of_walkNewBy reaches
  -- The place is new to the walk, so directories and links on the way are what they were.
  have directories : ∀ other, kinds other = some .directory → after other = some .directory := by
    intro other before
    rw [same, before]
    rintro rfl
    exact noDirectory before
  have redirects : ∀ other target, kinds other = some (.link target) →
      after other = some (.link target) := by
    intro other target before
    rw [same, before]
    rintro rfl
    exact noLink target before
  fun_induction walkNewBy kinds links here pending with
  | case2 links here name pending directory idle ih =>
      rw [walkBy, if_pos (directories _ directory), if_pos idle]
      exact ih reaches
  | case3 links here name pending directory idle up ih =>
      rw [walkBy, if_pos (directories _ directory), if_neg idle, if_pos up]
      exact ih reaches
  | case10 links here name pending directory idle up slash short target entry spare full ih =>
      rw [walkBy, if_pos (directories _ directory), if_neg idle, if_neg up, if_neg short,
        redirects _ _ entry]
      simp only [spare, full, ↓reduceIte, Bool.false_eq_true]
      exact ih reaches
  | case11 links here name pending directory idle up slash short entry ih =>
      rw [walkBy_into (directories _ directory) idle up short (directories _ entry) (by simp)]
      exact ih reaches
  | case6 | case12 =>
      rename_i last
      cases reaches
      rw [walkBy_into (directories _ ‹_›) ‹_› ‹_› ‹_› now plain, List.isEmpty_iff.mp last, walkBy]
  | case1 | case4 | case5 | case7 | case8 | case9 | case13 | case14 => cases reaches

namespace Node

theorem lookup_alter (name : String) (change : Option Node → Node)
    (entries : List (String × Node)) :
    (alter name change entries).lookup name = some (change (entries.lookup name)) := by
  induction entries with
  | nil => simp [alter]
  | cons entry entries ih =>
      obtain ⟨first, node⟩ := entry
      rw [alter]
      by_cases same : first = name
      · simp [same]
      · have apart : (name == first) = false := by simpa using Ne.symm same
        rw [if_neg (by simpa using same), List.lookup_cons, List.lookup_cons, apart]
        exact ih

theorem lookup_alter_of_ne {name other : String} (apart : other ≠ name)
    (change : Option Node → Node) (entries : List (String × Node)) :
    (alter name change entries).lookup other = entries.lookup other := by
  have apart : (other == name) = false := by simpa using apart
  induction entries with
  | nil => rw [alter, List.lookup_cons, apart]
  | cons entry entries ih =>
      obtain ⟨first, node⟩ := entry
      rw [alter]
      by_cases same : first = name
      · rw [if_pos (by simpa using same), same, List.lookup_cons, List.lookup_cons, apart]
      · rw [if_neg (by simpa using same), List.lookup_cons, List.lookup_cons, ih]

theorem alter_alter (name : String) (change last : Option Node → Node)
    (entries : List (String × Node)) :
    alter name last (alter name change entries) =
      alter name (fun entry => last (some (change entry))) entries := by
  induction entries with
  | nil => simp [alter]
  | cons entry entries ih =>
      obtain ⟨first, node⟩ := entry
      by_cases same : first = name
      · simp [alter, same]
      · simp [alter, same, ih]

/-- Of two nodes that are inserted at one place, the last one stays. -/
theorem insert_insert (first last : Node) (place : List String) (root : Node) :
    insert last place (insert first place root) = insert last place root := by
  induction place generalizing root with
  | nil => rfl
  | cons name place ih =>
      cases root with
      | directory entries => simp only [insert, alter_alter, Option.getD_some, ih]
      | file | link | special => rfl

/-- Do two trees have the same at a place: nothing, or nodes of one kind with the same bytes? -/
structure SameAt (root other : Node) (place : List String) : Prop where
  kind : other.kindAt place = root.kindAt place
  content : other.contentAt place = root.contentAt place

theorem SameAt.of_find {root other : Node} {place : List String}
    (same : other.find? place = root.find? place) : SameAt root other place :=
  ⟨congrArg (Option.map Node.kind) same, congrArg (Option.bind · content?) same⟩

/-- Directories are told apart by their entries only. -/
theorem SameAt.of_directories (before after : List (String × Node)) :
    SameAt (directory before) (directory after) [] := ⟨rfl, rfl⟩

theorem SameAt.below {before after : List (String × Node)} {name : String} {child other : Node}
    {place : List String} (entry : before.lookup name = some child)
    (altered : after.lookup name = some other) (same : SameAt child other place) :
    SameAt (directory before) (.directory after) (name :: place) := by
  constructor
  · rw [kindAt, kindAt, find?_directory_cons, find?_directory_cons, entry, altered]
    exact same.kind
  · rw [contentAt, contentAt, find?_directory_cons, find?_directory_cons, entry, altered]
    exact same.content

theorem exists_child {entries : List (String × Node)} {name : String} {place : List String}
    {kind : Kind} (stands : (directory entries).kindAt (name :: place) = some kind) :
    ∃ child, entries.lookup name = some child ∧ child.kindAt place = some kind := by
  rw [kindAt, find?_directory_cons, Option.map_bind] at stands
  exact Option.bind_eq_some_iff.mp stands

/-- A node that is inserted in a directory stands at its place. -/
theorem find?_insert {root : Node} {here : List String} (name : String) (node : Node)
    (parent : root.kindAt here = some .directory) :
    (insert node (here ++ [name]) root).find? (here ++ [name]) = some node := by
  induction here generalizing root with
  | nil =>
      cases root with
      | directory entries => simp [insert, lookup_alter]
      | file | link | special => cases parent
  | cons first here ih =>
      cases root with
      | directory entries =>
          obtain ⟨child, entry, parent⟩ := exists_child parent
          rw [List.cons_append, insert, find?_directory_cons, lookup_alter, entry]
          exact ih parent
      | file | link | special => cases parent

theorem kindAt_insert_file {root : Node} {here : List String} (name : String)
    (content : List UInt8) (parent : root.kindAt here = some .directory) :
    (insert (file content) (here ++ [name]) root).kindAt (here ++ [name]) = some .file := by
  rw [kindAt, find?_insert name _ parent]
  rfl

theorem contentAt_insert_file {root : Node} {here : List String} (name : String)
    (content : List UInt8) (parent : root.kindAt here = some .directory) :
    (insert (file content) (here ++ [name]) root).contentAt (here ++ [name]) = some content := by
  rw [contentAt, find?_insert name _ parent]
  rfl

/-- A file that is inserted in a directory, in the place of nothing or of a node that is no
directory, leaves every other place as it was. -/
theorem sameAt_insert {root : Node} {here : List String} {name : String} (content : List UInt8)
    (parent : root.kindAt here = some .directory)
    (vacant : root.kindAt (here ++ [name]) ≠ some .directory) {place : List String}
    (other : place ≠ here ++ [name]) :
    SameAt root (insert (file content) (here ++ [name]) root) place := by
  induction here generalizing root place with
  | nil =>
      cases root with
      | file | link | special => cases parent
      | directory entries =>
          cases place with
          | nil => exact .of_directories _ _
          | cons first place =>
              refine .of_find ?_
              by_cases same : first = name
              · subst same
                cases place with
                | nil => exact (other rfl).elim
                | cons second place =>
                    -- Below the file there is nothing, and there was nothing before.
                    have plain : (insert (file content) [first] (directory entries)).kindAt [first]
                        ≠ some .directory := by
                      simp [kindAt, insert, lookup_alter, kind]
                    exact (find?_below_eq_none plain second place).trans
                      (find?_below_eq_none vacant second place).symm
              · rw [List.nil_append, insert, find?_directory_cons, find?_directory_cons,
                  lookup_alter_of_ne same]
  | cons step here ih =>
      cases root with
      | file | link | special => cases parent
      | directory entries =>
          obtain ⟨child, entry, below⟩ := exists_child parent
          cases place with
          | nil => exact .of_directories _ _
          | cons first place =>
              by_cases same : first = step
              · subst same
                refine .below entry (lookup_alter _ _ _) ?_
                rw [entry]
                refine ih below ?_ ?_
                · rwa [List.cons_append, kindAt, find?_directory_cons, entry] at vacant
                · rintro rfl
                  exact other rfl
              · refine .of_find ?_
                rw [List.cons_append, insert, find?_directory_cons, find?_directory_cons,
                  lookup_alter_of_ne same]

end Node

/-! ## File systems with the same kinds -/

/-- Do two file systems differ at most in the bytes of their files? -/
structure SameKinds (system other : FileSystem) : Prop where
  here : other.here = system.here
  kindAt : ∀ place, other.root.kindAt place = system.root.kindAt place

section SameKinds

variable {system other : FileSystem}

theorem SameKinds.resolve (same : SameKinds system other) (path : String) :
    other.resolve path = system.resolve path := by
  unfold FileSystem.resolve
  rw [walk_eq_walkBy, walk_eq_walkBy, funext same.kindAt, same.here]

theorem contains_eq (system : FileSystem) (path : String) :
    system.contains path = (checkPath path >>= fun _ => system.resolve path).toOption.any
      fun place => (system.root.kindAt place).isSome := by
  unfold FileSystem.contains find
  cases checkPath path with
  | error fault => rfl
  | ok _ =>
      cases resolved : system.resolve path with
      | error fault => rfl
      | ok place =>
          change _ = (system.root.kindAt place).isSome
          rw [Outcome.ok_bind, Outcome.ok_bind, Node.kindAt, Option.isSome_map]
          cases system.root.find? place <;> rfl

theorem SameKinds.contains (same : SameKinds system other) (path : String) :
    other.contains path = system.contains path := by
  simp only [contains_eq, same.resolve, same.kindAt]

theorem Node.text_eq {node other : Node} (kind : other.kind = node.kind)
    (content : other.content? = node.content?) : other.text = node.text := by
  cases node <;> cases other <;> cases kind <;> cases content <;> rfl

/-- The text at a place depends on what stands there only. -/
theorem textAt_eq_of_sameAt {place : List String}
    (same : Node.SameAt system.root other.root place) :
    other.textAt place = system.textAt place := by
  obtain ⟨kind, content⟩ := same
  unfold Node.kindAt at kind
  unfold Node.contentAt at content
  unfold textAt
  cases before : system.root.find? place with
  | none =>
      rw [before, Option.map_none, Option.map_eq_none_iff] at kind
      rw [kind]
  | some node =>
      rw [before, Option.map_some] at kind
      obtain ⟨now, after, kind⟩ := Option.map_eq_some_iff.mp kind
      rw [before, after] at content
      rw [after]
      exact Node.text_eq kind content

theorem readText_eq (system : FileSystem) (path : String) :
    system.readText path =
      (checkPath path >>= fun _ => system.resolve path >>= fun place => system.textAt place) := by
  unfold readText find textAt
  cases checkPath path with
  | error fault => rfl
  | ok _ =>
      cases system.resolve path with
      | error fault => rfl
      | ok place =>
          rw [Outcome.ok_bind, Outcome.ok_bind, Outcome.ok_bind, Outcome.ok_bind]
          cases system.root.find? place <;> rfl

/-- A path has the same text in two file systems when the place that it leads to has the same
bytes. -/
theorem SameKinds.readText (same : SameKinds system other) {path : String}
    (content : ∀ place, system.resolve path = .ok place →
      other.root.contentAt place = system.root.contentAt place) :
    other.readText path = system.readText path := by
  rw [readText_eq, readText_eq, same.resolve]
  cases checkPath path with
  | error fault => rfl
  | ok _ =>
      cases resolved : system.resolve path with
      | error fault => rfl
      | ok place => exact textAt_eq_of_sameAt ⟨same.kindAt place, content place resolved⟩

end SameKinds

/-! ## Writing a file -/

/-- The file system with a file at a place. What is written to a special node is gone. -/
def put (system : FileSystem) (content : List UInt8) (place : List String) : FileSystem :=
  if system.root.kindAt place = some .special then system
  else { system with root := Node.insert (.file content) place system.root }

theorem create_eq (system : FileSystem) (path : String) :
    system.create path = (checkPath path >>= fun _ =>
      (walkNewBy system.root.kindAt linkLimit (start system.here path) (Path.parts path)).map
        fun place => (place, system.put [] place)) := by
  unfold create
  rw [walkNew_eq_walkNewBy]
  cases checkPath path with
  | error fault => rfl
  | ok _ =>
      cases walkNewBy system.root.kindAt linkLimit (start system.here path) (Path.parts path) with
      | error fault => rfl
      | ok place =>
          rw [Outcome.ok_bind, Outcome.ok_bind, Outcome.ok_bind]
          change _ = Except.ok (place, system.put [] place)
          rw [put, Node.kindAt]
          split
          · next found =>
              rw [found]
              rfl
          · next other =>
              rw [if_neg]
              intro same
              obtain ⟨node, found, same⟩ := Option.map_eq_some_iff.mp same
              cases node with
              | special => exact other found
              | file | directory | link => cases same

/-- Is there a place in which a file can be written along a path? -/
def Opens (system : FileSystem) (path : String) : Prop :=
  checkPath path = .ok () ∧
    ∃ place, walkNew system.root linkLimit (start system.here path) (Path.parts path) = .ok place

theorem exists_create_iff (system : FileSystem) (path : String) :
    (∃ opened, system.create path = .ok opened) ↔ system.Opens path := by
  rw [Opens, create_eq, walkNew_eq_walkNewBy]
  cases checkPath path with
  | error fault =>
      constructor
      · rintro ⟨_, impossible⟩
        cases impossible
      · rintro ⟨impossible, _⟩
        cases impossible
  | ok _ =>
      rw [Outcome.ok_bind]
      cases walkNewBy system.root.kindAt linkLimit (start system.here path) (Path.parts path) with
      | error fault => simp [Except.map]
      | ok place => simp [Except.map]

theorem SameKinds.opens_iff {system other : FileSystem} (same : SameKinds system other)
    (path : String) : other.Opens path ↔ system.Opens path := by
  rw [Opens, Opens, walkNew_eq_walkNewBy, walkNew_eq_walkNewBy, funext same.kindAt, same.here]

/-- Was a file written along a path: does the path now lead to a place with the content, or to a
special node, and is everything else as it was? -/
structure Written (system after : FileSystem) (path : String) (content : List UInt8)
    (place : List String) : Prop where
  here : after.here = system.here
  resolve : after.resolve path = .ok place
  content : after.root.contentAt place = some content ∨
    after = system ∧ system.root.kindAt place = some .special
  others : ∀ other, other ≠ place → Node.SameAt system.root after.root other

theorem resolve_eq {path : String} (fit : checkPath path = .ok ()) (system : FileSystem) :
    system.resolve path =
      walkBy system.root.kindAt linkLimit (start system.here path) (Path.parts path) := by
  obtain ⟨⟨⟩, text, -⟩ := Outcome.bind_eq_ok_iff.mp fit
  rw [FileSystem.resolve, text, walk_eq_walkBy]
  rfl

theorem written_put {system : FileSystem} {path : String} {place : List String}
    (content : List UInt8) (fit : checkPath path = .ok ())
    (reaches : walkNewBy system.root.kindAt linkLimit (start system.here path) (Path.parts path) =
      .ok place) :
    Written system (system.put content place) path content place := by
  rw [put]
  split
  · next special =>
      refine ⟨rfl, ?_, .inr ⟨rfl, special⟩, fun other _ => .of_find rfl⟩
      rw [resolve_eq fit]
      exact walkBy_of_walkNewBy reaches (fun _ _ => rfl) special (by simp)
  · obtain ⟨parent, name, rfl, directory, vacant, -⟩ := writable_of_walkNewBy reaches
    have others : ∀ other, other ≠ parent ++ [name] → Node.SameAt system.root
        (Node.insert (.file content) (parent ++ [name]) system.root) other :=
      fun other apart => Node.sameAt_insert content directory vacant apart
    refine ⟨rfl, ?_, .inl (Node.contentAt_insert_file name content directory), others⟩
    rw [resolve_eq fit]
    exact walkBy_of_walkNewBy reaches (fun other apart => (others other apart).kind)
      (Node.kindAt_insert_file name content directory) (by simp)

/-- A file that was opened holds what is written to it. -/
theorem append_put {system : FileSystem} {parent : List String} {name : String}
    (directory : system.root.kindAt parent = some .directory) (bytes : List UInt8) :
    (system.put [] (parent ++ [name])).append (parent ++ [name]) bytes =
      system.put bytes (parent ++ [name]) := by
  unfold put
  split
  · next special =>
      obtain ⟨node, found, same⟩ := Option.map_eq_some_iff.mp special
      cases node with
      | special => rw [append, found]
      | file | directory | link => cases same
  · rw [append, Node.find?_insert name _ directory]
    simp only [List.nil_append, Node.insert_insert]

theorem written_of_create {system opened : FileSystem} {path : String} {place : List String}
    (creates : system.create path = .ok (place, opened)) (bytes : List UInt8) :
    Written system (opened.append place bytes) path bytes place := by
  rw [create_eq] at creates
  obtain ⟨⟨⟩, fit, creates⟩ := Outcome.bind_eq_ok_iff.mp creates
  cases reaches : walkNewBy system.root.kindAt linkLimit (start system.here path)
      (Path.parts path) with
  | error fault =>
      rw [reaches] at creates
      cases creates
  | ok found =>
      rw [reaches] at creates
      cases creates
      obtain ⟨parent, name, rfl, directory, -⟩ := writable_of_walkNewBy reaches
      rw [append_put directory]
      exact written_put bytes fit reaches

end GrantSurvey.FileSystem
