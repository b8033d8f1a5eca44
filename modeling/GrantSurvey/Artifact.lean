import GrantSurvey.FileSystem.Basic
import GrantSurvey.Tally

/-!
# Artifacts

An artifact is a path with the role that it plays. The file name is the name of its module.
-/

namespace GrantSurvey

structure Artifact where
  path : String
  scope : Scope
  deriving DecidableEq, Repr

namespace Artifact

/-- The name of the module: the file name, or the whole path if it has none. -/
def moduleName (artifact : Artifact) : String :=
  (Path.fileName? artifact.path).getD artifact.path

end Artifact

end GrantSurvey
