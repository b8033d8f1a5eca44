import GrantSurvey.Report.Basic

/-!
# Reports as JSON

The whole report as one JSON value: every finding with its permissions and the statements that
grant them, and what every module requires. Findings of the project itself may link to a rendering
of its sources.
-/

namespace GrantSurvey.Report

def permissionJson (permission : Permission) : Json :=
  .object [("kind", .string permission.kind), ("target", .string permission.target),
    ("actions", .string permission.actions)]

/-- A finding as a JSON value, with a link if a base is given and the line is known. -/
def findingJson (base : Option String) (finding : Finding) : Json :=
  let link := match base.bind finding.crossReference with
    | some address => [("xref", Json.string address)]
    | none => []
  .object ([("class_name", .string finding.className), ("method", .string finding.method),
    ("descriptor", .string finding.descriptor), ("line", .ofInt finding.lineNumber),
    ("permissions", .array (finding.permissions.map permissionJson)),
    ("policy", .ofStrings finding.policy)] ++ link)

def requirementJson (requirement : Requirement) : Json :=
  .object [("kind", .string requirement.kind), ("target", .string requirement.target)]

/-- The base for the links of a module: only the project itself has links. -/
def linkBase (base : Option String) (survey : ModuleSurvey) : Option String :=
  match survey.scope with
  | .project => base
  | .compile | .test => none

def moduleJson (base : Option String) (survey : ModuleSurvey) : Json :=
  .object [("name", .string survey.name), ("scope", .string survey.scope.label),
    ("findings", .array (survey.findings.map (findingJson (linkBase base survey)))),
    ("requires", .array (survey.requirements.map requirementJson)),
    ("keys", .ofStrings survey.keys), ("policy", .ofStrings survey.policy.statements)]

def json (report : ProjectReport) (base : Option String) : Json :=
  .object [("project", .ofString? report.project), ("class_count", .ofNat report.classCount),
    ("modules", .array (report.modules.map (moduleJson base))),
    ("policy", .ofStrings report.policy.statements),
    ("dependency_policy", .ofStrings report.dependencyPolicy.statements),
    ("diagnostics", .array (report.diagnostics.map Diagnostic.toJson))]

def jsonText (report : ProjectReport) (base : Option String) : String :=
  (json report base).pretty ++ "\n"

end GrantSurvey.Report
