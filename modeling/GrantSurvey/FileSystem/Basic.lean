import GrantSurvey.FileSystem.Node
import GrantSurvey.Path
import GrantSurvey.Text.Utf8

/-!
# Looking up paths

A path is walked part by part from the root or from the working directory. Every part needs a
directory to stand in, a link is replaced by the parts of its target, and only so many links are
followed.
-/

namespace GrantSurvey

namespace FileSystem

inductive Fault where
  | notFound
  | notDirectory
  | isDirectory
  | nameTooLong
  | tooManyLinks
  | nulInName
  | notText
  deriving DecidableEq, Repr

def Fault.message : Fault → String
  | notFound => "No such file or directory (os error 2)"
  | notDirectory => "Not a directory (os error 20)"
  | isDirectory => "Is a directory (os error 21)"
  | nameTooLong => "File name too long (os error 36)"
  | tooManyLinks => "Too many levels of symbolic links (os error 40)"
  | nulInName => "file name contained an unexpected NUL byte"
  | notText => "stream did not contain valid UTF-8"

/-- The bytes of a node. Nodes other than files and directories are empty. -/
def Node.bytes : Node → Except Fault (List UInt8)
  | .file content => .ok content
  | .directory _ => .error .isDirectory
  | .link _ | .special => .ok []

def Node.text (node : Node) : Except Fault String := do
  match Utf8.text? (← node.bytes) with
  | some text => .ok text
  | none => .error .notText

def linkLimit : Nat := 40

def nameLimit : Nat := 255

def pathLimit : Nat := 4095

def start (here : List String) (path : String) : List String :=
  if Path.isAbsolute path then [] else here

/-- The place that the pending parts of a path lead to from a place. -/
def walk (root : Node) (links : Nat) (here pending : List String) :
    Except Fault (List String) :=
  match pending with
  | [] => .ok here
  | name :: pending =>
      match root.find? here with
      | some (.directory entries) =>
          if Path.isIdle name then walk root links here pending
          else if name == ".." then walk root links here.dropLast pending
          else if nameLimit < name.utf8ByteSize then .error .nameTooLong
          else
            match entries.lookup name with
            | none => .error .notFound
            | some (.link target) =>
                if links = 0 then .error .tooManyLinks
                else if target.isEmpty then .error .notFound
                else walk root (links - 1) (start here target) (Path.parts target ++ pending)
            | some _ => walk root links (here ++ [name]) pending
      | _ => .error .notDirectory
  termination_by (links, pending.length)

/-- The place in which a file is written when it is reached by the pending parts of a path. Its
last name may be new; it may not be followed by a slash. -/
def walkNew (root : Node) (links : Nat) (here pending : List String) :
    Except Fault (List String) :=
  match pending with
  | [] => .error .isDirectory
  | name :: pending =>
      match root.find? here with
      | some (.directory entries) =>
          if Path.isIdle name then walkNew root links here pending
          else if name == ".." then walkNew root links here.dropLast pending
          else if !pending.isEmpty && pending.all String.isEmpty then .error .isDirectory
          else if nameLimit < name.utf8ByteSize then .error .nameTooLong
          else
            match entries.lookup name with
            | none => if pending.isEmpty then .ok (here ++ [name]) else .error .notFound
            | some (.link target) =>
                if links = 0 then .error .tooManyLinks
                else if target.isEmpty then .error .notFound
                else walkNew root (links - 1) (start here target) (Path.parts target ++ pending)
            | some (.directory _) => walkNew root links (here ++ [name]) pending
            | some _ =>
                if pending.isEmpty then .ok (here ++ [name]) else .error .notDirectory
      | _ => .error .notDirectory
  termination_by (links, pending.length)

def checkText (path : String) : Except Fault Unit :=
  if path.toList.contains (Char.ofNat 0) then .error .nulInName
  else if path.isEmpty then .error .notFound
  else .ok ()

/-- Is a text fit to be a path that is looked up at once? -/
def checkPath (path : String) : Except Fault Unit := do
  checkText path
  if pathLimit < path.utf8ByteSize then throw .nameTooLong

end FileSystem

structure FileSystem where
  root : FileSystem.Node
  here : List String
  deriving Repr

namespace FileSystem

/-- The place that a path leads to. The path is walked part by part, so it may be of any length. -/
def resolve (system : FileSystem) (path : String) : Except Fault (List String) := do
  checkText path
  walk system.root linkLimit (start system.here path) (Path.parts path)

def find (system : FileSystem) (path : String) : Except Fault Node := do
  checkPath path
  let place ← system.resolve path
  match system.root.find? place with
  | some node => .ok node
  | none => .error .notFound

def contains (system : FileSystem) (path : String) : Bool :=
  (system.find path).toOption.isSome

def read (system : FileSystem) (path : String) : Except Fault (List UInt8) := do
  (← system.find path).bytes

def readText (system : FileSystem) (path : String) : Except Fault String := do
  (← system.find path).text

def textAt (system : FileSystem) (place : List String) : Except Fault String :=
  match system.root.find? place with
  | some node => node.text
  | none => .error .notFound

/-- Opens a file for writing: gives its place, and the file system in which it is empty. A special
node stays what it is. -/
def create (system : FileSystem) (path : String) : Except Fault (List String × FileSystem) := do
  checkPath path
  let place ← walkNew system.root linkLimit (start system.here path) (Path.parts path)
  match system.root.find? place with
  | some .special => .ok (place, system)
  | _ => .ok (place, { system with root := Node.insert (.file []) place system.root })

/-- Writes at the end of the file at a place. What is written to any other node is gone. -/
def append (system : FileSystem) (place : List String) (bytes : List UInt8) : FileSystem :=
  match system.root.find? place with
  | some (.file content) =>
      { system with root := Node.insert (.file (content ++ bytes)) place system.root }
  | _ => system

def workingDirectory (system : FileSystem) : String :=
  Path.ofPlace system.here

end FileSystem

end GrantSurvey
