import GrantSurvey.Opening
import GrantSurvey.Report.Basic
import GrantSurvey.Survey

/-!
# Surveying projects

A project and its dependencies are surveyed one artifact after the other, the project first. What
an artifact yields depends on that artifact alone. Artifacts for tests are left out unless they are
asked for.
-/

namespace GrantSurvey

def Artifact.examine (book : Rulebook) (system : FileSystem) (artifact : Artifact) : ArchiveScan :=
  examineArchive book (artifact.archive system)

def ArchiveScan.module (artifact : Artifact) (scan : ArchiveScan) : ModuleSurvey where
  name := artifact.moduleName
  scope := artifact.scope
  findings := scan.findings

/-- The artifacts to survey: the project first, then the dependencies in their order. -/
def surveyedArtifacts (project : Option Artifact) (dependencies : List Artifact)
    (includeTests : Bool) : List Artifact :=
  project.toList ++ dependencies.filter fun artifact => includeTests || artifact.scope != .test

/-- The report about artifacts that are surveyed by `scan`. -/
def examineProject (scan : Artifact → ArchiveScan) (project : Option Artifact)
    (dependencies : List Artifact) (includeTests : Bool) : ProjectReport :=
  let artifacts := surveyedArtifacts project dependencies includeTests
  ProjectReport.ofTally (project.map Artifact.moduleName)
    (Tally.ofList (artifacts.map fun artifact => (scan artifact).module artifact))
    (artifacts.flatMap fun artifact => (scan artifact).diagnostics)
    (artifacts.foldl (fun count artifact => count + (scan artifact).classCount) 0)

end GrantSurvey
