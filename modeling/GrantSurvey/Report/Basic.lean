import GrantSurvey.Diagnostic
import GrantSurvey.Tally

/-!
# Project reports

What a survey of a project and its dependencies found, whatever form it is then written in.
-/

namespace GrantSurvey

/-- The modules of a project with the policies that they add up to, and what went wrong. -/
structure ProjectReport where
  project : Option String
  modules : List ModuleSurvey
  policy : PolicySet
  dependencyPolicy : PolicySet
  diagnostics : List Diagnostic
  classCount : Nat
  deriving DecidableEq, Repr

def ProjectReport.ofTally (project : Option String) (tally : Tally)
    (diagnostics : List Diagnostic) (classCount : Nat) : ProjectReport where
  project
  modules := tally.modules
  policy := tally.policy
  dependencyPolicy := tally.dependencyPolicy
  diagnostics
  classCount

end GrantSurvey
