import GrantSurvey.Report.Basic

/-!
# Reports as policy files

The block that grants the project's policy. On demand a block for every module stands before it,
and one for all dependencies together.
-/

namespace GrantSurvey.Report

/-- The code base that a module's block is confined to. The project's own block is not confined. -/
def codebase (survey : ModuleSurvey) : Option String :=
  match survey.scope with
  | .project => none
  | .compile | .test => some survey.name

def moduleBlock (survey : ModuleSurvey) : String :=
  s!"// {survey.name} ({survey.scope.label})\n" ++ survey.policy.block (codebase survey) ++ "\n"

def policyText (report : ProjectReport) (perModule : Bool) : String :=
  let blocks :=
    if perModule then
      String.join (report.modules.map moduleBlock)
        ++ "// all dependencies\n" ++ report.dependencyPolicy.block none ++ "\n" ++ "// project\n"
    else ""
  blocks ++ report.policy.block none

end GrantSurvey.Report
