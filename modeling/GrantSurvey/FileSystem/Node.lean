/-!
# File trees

A file tree has regular files, directories, symbolic links and other nodes. A place in a tree is
the list of the names that lead to it through real directories.
-/

namespace GrantSurvey.FileSystem

inductive Node where
  | file (content : List UInt8)
  | directory (entries : List (String × Node))
  | link (target : String)
  | special
  deriving Repr

namespace Node

def isDirectory : Node → Bool
  | directory _ => true
  | _ => false

def find? : Node → (place : List String) → Option Node
  | node, [] => some node
  | directory entries, name :: place => (entries.lookup name).bind (find? · place)
  | _, _ :: _ => none

def alter (name : String) (change : Option Node → Node) :
    List (String × Node) → List (String × Node)
  | [] => [(name, change none)]
  | (first, node) :: entries =>
      if first == name then (name, change (some node)) :: entries
      else (first, node) :: alter name change entries

/-- The tree with a node at a place. Directories that are missing on the way are made. -/
def insert (node : Node) : (place : List String) → Node → Node
  | [], _ => node
  | name :: place, directory entries =>
      directory (alter name (fun entry => insert node place (entry.getD (directory []))) entries)
  | _ :: _, other => other

mutual

/-- The places of the regular files below a node. No link is followed. -/
def files : Node → List (List String)
  | file _ => [[]]
  | directory entries => entriesFiles entries
  | link _ => []
  | special => []

def entriesFiles : List (String × Node) → List (List String)
  | [] => []
  | (name, node) :: entries => (files node).map (name :: ·) ++ entriesFiles entries

end

mutual

/-- The places of the directories below a node. No link is followed. -/
def directories : Node → List (List String)
  | file _ => []
  | directory entries => entriesDirectories entries
  | link _ => []
  | special => []

/-- The places of the directories among the entries of a directory and below them. -/
def entriesDirectories : List (String × Node) → List (List String)
  | [] => []
  | (name, node) :: entries =>
      (if node.isDirectory then [[name]] else []) ++ (directories node).map (name :: ·)
        ++ entriesDirectories entries

end

mutual

def places : Node → List (List String)
  | file _ => [[]]
  | directory entries => [] :: entriesPlaces entries
  | link _ => [[]]
  | special => [[]]

def entriesPlaces : List (String × Node) → List (List String)
  | [] => []
  | (name, node) :: entries => (places node).map (name :: ·) ++ entriesPlaces entries

end

theorem mem_entriesPlaces {entries : List (String × Node)} {name : String} {node : Node}
    {place : List String} (entry : entries.lookup name = some node)
    (member : place ∈ places node) : name :: place ∈ entriesPlaces entries := by
  induction entries with
  | nil => simp at entry
  | cons first entries ih =>
      obtain ⟨other, child⟩ := first
      rw [entriesPlaces, List.mem_append]
      rw [List.lookup_cons] at entry
      by_cases same : name == other
      · rw [same] at entry
        cases Option.some.inj entry
        exact .inl (List.mem_map.mpr ⟨place, member, by rw [eq_of_beq same]⟩)
      · rw [Bool.eq_false_iff.mpr same] at entry
        exact .inr (ih entry)

/-- A place at which a node is found is one of the places of the tree. -/
theorem mem_places {node found : Node} {place : List String}
    (finding : node.find? place = some found) : place ∈ places node := by
  induction place generalizing node with
  | nil => cases node <;> simp [places]
  | cons name place ih =>
      cases node with
      | directory entries =>
          rw [find?, Option.bind_eq_some_iff] at finding
          obtain ⟨child, entry, below⟩ := finding
          exact List.mem_cons_of_mem _ (mem_entriesPlaces entry (ih below))
      | file | link | special => simp [find?] at finding

end Node

end GrantSurvey.FileSystem
