import GrantSurvey.Account
import GrantSurvey.FileSystem.Basic

/-!
# Argument files

An argument that starts with an at sign refers to a file that lists further arguments, one on a
line; blank lines and lines that start with a number sign say nothing. A listed path is taken from
the directory of the file that lists it, and so is a listed reference. A file may be referred to
more than once, but not from within itself.
-/

namespace GrantSurvey.ArgumentFile

open FileSystem

inductive Fault where
  | emptyReference
  | unresolved (path : String) (fault : FileSystem.Fault)
  | circular (path : String)
  | unreadable (path : String) (fault : FileSystem.Fault)
  deriving DecidableEq, Repr

def Fault.account : Fault → Account
  | emptyReference => ["empty @file reference"]
  | unresolved path fault => [s!"failed to resolve {path}", fault.message]
  | circular path => [s!"circular @file reference: {path}"]
  | unreadable path fault => [s!"failed to read {path}", fault.message]

/-- What an argument stands for: a path, or what a file lists. -/
inductive Item where
  | path (text : String)
  | reference (text : String)
  deriving DecidableEq, Repr

namespace Item

/-- The item of a text, in which a path that is no reference is settled by `settle`. -/
def ofText (settle : String → String) (text : List Char) : Item :=
  match text with
  | '@' :: name => .reference (String.ofList name)
  | _ => .path (settle (String.ofList text))

/-- The item of an argument. Paths stand for themselves. -/
def ofArgument (argument : String) : Item :=
  ofText id argument.toList

def ofFile (directory text : String) : List Item :=
  let lines := (Text.split '\n' text.toList).map Text.trim
  let listed := lines.filter fun line => !line.isEmpty && line.head? != some '#'
  listed.map (ofText (Path.join directory))

end Item

/-- Where argument files are found: the place that a path leads to, and the text of the file at a
place. Only finitely many places have a text. -/
structure TextSource where
  resolve : String → Except FileSystem.Fault (List String)
  text : List String → Except FileSystem.Fault String
  places : List (List String)
  mem_places : ∀ place content, text place = .ok content → place ∈ places

/-- What a file lists, with the place of the file. -/
structure Listing where
  place : List String
  items : List Item
  deriving DecidableEq, Repr

namespace Listing

def directory (place : List String) : String :=
  Path.ofPlace place.dropLast

def ofText (place : List String) (text : String) : Listing :=
  ⟨place, Item.ofFile (directory place) text⟩

/-- Is a listing to be had from a source, and from a file that is not being expanded? -/
def IsFresh (source : TextSource) (stack : List (List String)) (listing : Listing) : Prop :=
  listing.place ∈ source.places ∧ listing.place ∉ stack

def ofPlace (source : TextSource) (stack : List (List String)) (place : List String) :
    Except Fault Listing :=
  if place ∈ stack then .error (.circular (Path.ofPlace place))
  else
    match source.text place with
    | .error fault => .error (.unreadable (Path.ofPlace place) fault)
    | .ok text => .ok (ofText place text)

/-- The listing that a reference from a base leads to. The stack holds the places of the files that
are being expanded. -/
def ofReference (source : TextSource) (stack : List (List String)) (base reference : String) :
    Except Fault Listing :=
  if reference.isEmpty then .error .emptyReference
  else
    let path := Path.join base reference
    match source.resolve path with
    | .error fault => .error (.unresolved path fault)
    | .ok place => ofPlace source stack place

theorem isFresh_of_ofPlace {source : TextSource} {stack : List (List String)}
    {place : List String} {listing : Listing} (opens : ofPlace source stack place = .ok listing) :
    listing.IsFresh source stack := by
  rw [ofPlace] at opens
  split at opens
  · cases opens
  · rename_i fresh
    split at opens
    · cases opens
    · rename_i text reads
      cases opens
      exact ⟨source.mem_places place text reads, fresh⟩

theorem isFresh_of_ofReference {source : TextSource} {stack : List (List String)}
    {base reference : String} {listing : Listing}
    (opens : ofReference source stack base reference = .ok listing) :
    listing.IsFresh source stack := by
  rw [ofReference] at opens
  split at opens
  · cases opens
  · dsimp only at opens
    split at opens
    · cases opens
    · exact isFresh_of_ofPlace opens

end Listing

def unvisited (source : TextSource) (stack : List (List String)) : List (List String) :=
  source.places.filter fun place => decide (place ∉ stack)

theorem unvisited_lt {source : TextSource} {stack : List (List String)} {listing : Listing}
    (fresh : listing.IsFresh source stack) :
    (unvisited source (listing.place :: stack)).length < (unvisited source stack).length := by
  have nested : unvisited source (listing.place :: stack)
      = (unvisited source stack).filter fun place => decide (place ≠ listing.place) := by
    simp [unvisited, List.filter_filter]
  rw [nested, List.length_filter_lt_length_iff_exists]
  exact ⟨listing.place, List.mem_filter.mpr ⟨fresh.1, by simpa using fresh.2⟩, by simp⟩

/-- The paths that items stand for, in their order. References are taken from a base. -/
def expandItems (source : TextSource) (stack : List (List String)) (base : String) :
    List Item → Except Fault (List String)
  | [] => .ok []
  | .path text :: items => do
      return text :: (← expandItems source stack base items)
  | .reference text :: items =>
      match _opens : Listing.ofReference source stack base text with
      | .error fault => .error fault
      | .ok listing => do
          let listed ← expandItems source (listing.place :: stack)
            (Listing.directory listing.place) listing.items
          return listed ++ (← expandItems source stack base items)
  termination_by items => ((unvisited source stack).length, items.length)
  decreasing_by
    · exact Prod.Lex.right _ (Nat.lt_succ_self _)
    · exact Prod.Lex.left _ _ (unvisited_lt (Listing.isFresh_of_ofReference ‹_›))
    · exact Prod.Lex.right _ (Nat.lt_succ_self _)

namespace TextSource

/-- The paths that arguments stand for. References are taken from a base. -/
def expand (source : TextSource) (base : String) (arguments : List String) :
    Except Fault (List String) :=
  expandItems source [] base (arguments.map Item.ofArgument)

theorem mem_places_of_textAt (system : FileSystem) (place : List String) (content : String)
    (reading : system.textAt place = .ok content) : place ∈ system.root.places := by
  rw [FileSystem.textAt] at reading
  cases finding : system.root.find? place with
  | none => rw [finding] at reading; cases reading
  | some node => exact Node.mem_places finding

def ofSystem (system : FileSystem) : TextSource where
  resolve := system.resolve
  text := system.textAt
  places := system.root.places
  mem_places := mem_places_of_textAt system

end TextSource

def expand (system : FileSystem) (base : String) (arguments : List String) :
    Except Fault (List String) :=
  (TextSource.ofSystem system).expand base arguments

end GrantSurvey.ArgumentFile
