import GrantSurvey.Archive
import GrantSurvey.Artifact
import GrantSurvey.Zip.Member

/-!
# Opening artifacts

An artifact is a directory of classes, a single class file, or an archive file; the extension tells
the files apart. Opening it gives its class entries, or the reason why there are none.
-/

namespace GrantSurvey

def Archive.orderByName (entries : List Archive.Entry) : List Archive.Entry :=
  entries.mergeSort fun first second => first.name ≤ second.name

/-- The names of the class files below a node, ascending. -/
def FileSystem.Node.classNames (node : FileSystem.Node) : List String :=
  ((node.files.map fun place => "/".intercalate place).filter Archive.isSurveyed).mergeSort
    fun first second => first ≤ second

/-- Checks that the directories below a node can be read, where the node is that of a path. -/
def FileSystem.Node.checkDirectories (path : String) (node : FileSystem.Node) :
    Except FileSystem.Fault Unit :=
  node.directories.forM fun place => checkPath (Path.join path ("/".intercalate place))

namespace Artifact

def fileEntry (system : FileSystem) (path name : String) : Archive.Entry :=
  ⟨name, (system.read path).mapError FileSystem.Fault.message⟩

def directoryEntries (system : FileSystem) (path : String) (node : FileSystem.Node) :
    List Archive.Entry :=
  node.classNames.map fun name => fileEntry system (Path.join path name) name

def memberEntry (members : List Zip.Member) (name : String) : Archive.Entry :=
  ⟨name, (Zip.read members name).mapError Zip.DataFault.message⟩

def archiveEntries (system : FileSystem) (path : String) : Except String (List Archive.Entry) := do
  let bytes ← (system.read path).mapError FileSystem.Fault.message
  let members ← (Zip.members bytes).mapError Zip.Fault.message
  let names := (members.map (·.name)).filter Archive.isSurveyed
  return Archive.orderByName (names.map (memberEntry members))

def archiveExtensions : List String := ["jar", "war", "ear", "zip"]

def entries (system : FileSystem) (artifact : Artifact) : Except String (List Archive.Entry) :=
  match system.find artifact.path with
  | .ok (.directory content) => do
      let node := FileSystem.Node.directory content
      (node.checkDirectories artifact.path).mapError FileSystem.Fault.message
      return directoryEntries system artifact.path node
  | _ =>
      let extension := ((Path.extension? artifact.path).getD "").map Char.toLower
      if extension == "class" then
        .ok [fileEntry system artifact.path artifact.moduleName]
      else if archiveExtensions.contains extension then archiveEntries system artifact.path
      else .error s!"unsupported input file: {artifact.path}"

def archive (system : FileSystem) (artifact : Artifact) : Except Diagnostic Archive :=
  match artifact.entries system with
  | .ok entries => .ok ⟨artifact.moduleName, entries⟩
  | .error reason => .error (.unreadableArchive artifact.moduleName reason)

end Artifact

end GrantSurvey
