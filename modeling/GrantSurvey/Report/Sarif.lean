import GrantSurvey.Report.Basic

/-!
# Reports as SARIF logs

A log has one result for every permission of every finding, and one rule for every kind of
permission that occurs. Log, rules and results are values of their own; a log without rules leaves
them out of its JSON form.
-/

namespace GrantSurvey.Sarif

/-- What a result is about: a permission that a finding of a module needs. -/
structure Result where
  module : String
  finding : Finding
  permission : Permission
  deriving DecidableEq, Repr

namespace Result

def rule (result : Result) : String :=
  result.permission.kind

def function (result : Result) : String :=
  s!"{result.finding.className}.{result.finding.method}{result.finding.descriptor}"

def message (result : Result) : String :=
  let className := result.finding.className.replace "/" "."
  s!"{className}.{result.finding.method} requires {result.permission.grant}"

/-- The place of the finding. The region is left out if the line is unknown. -/
def place (result : Result) : Json :=
  let region := match result.finding.line with
    | some line => [("region", Json.object [("startLine", .ofNat line)])]
    | none => []
  .object (("artifactLocation", .object [("uri", .string result.module)]) :: region)

def toJson (result : Result) : Json :=
  .object [
    ("locations", .array [.object [
      ("logicalLocations", .array [.object [("kind", .string "function"),
        ("name", .string result.function)]]),
      ("physicalLocation", result.place)]]),
    ("message", .object [("text", .string result.message)]),
    ("ruleId", .string result.rule)]

end Result

def lastPart (name : String) : String :=
  String.ofList (name.toList.reverse.takeWhile (· != '.')).reverse

def ruleJson (kind : String) : Json :=
  .object [("id", .string kind), ("name", .string (lastPart kind)),
    ("shortDescription", .object [("text", .string s!"Code requires {kind}")])]

/-- The results of a module: one for every permission of every finding. -/
def moduleResults (survey : ModuleSurvey) : List Result :=
  survey.findings.flatMap fun finding =>
    finding.permissions.map fun permission => ⟨survey.name, finding, permission⟩

def results (report : ProjectReport) : List Result :=
  report.modules.flatMap moduleResults

/-- The kinds of permissions in a report, each once, in ascending order. -/
def rules (report : ProjectReport) : List String :=
  Ordered.ofList (report.modules.flatMap fun survey => survey.permissions.map (·.kind))

def toolName : String := "policyextractor"

def toolVersion : String := "0.3.0"

def toolJson (kinds : List String) : Json :=
  let rules := if kinds.isEmpty then [] else [("rules", Json.array (kinds.map ruleJson))]
  .object [("driver", .object (("name", .string toolName) :: rules
    ++ [("semanticVersion", .string toolVersion)]))]

def invocationJson (report : ProjectReport) : Json :=
  .object [("executionSuccessful", .bool true),
    ("properties", .object [
      (toolName ++ ".class_count", .ofNat report.classCount),
      (toolName ++ ".diagnostics", .ofStrings (report.diagnostics.map Diagnostic.message)),
      (toolName ++ ".module_count", .ofNat report.modules.length)])]

def log (report : ProjectReport) : Json :=
  .object [
    ("$schema", .string "https://schemastore.azurewebsites.net/schemas/json/sarif-2.1.0.json"),
    ("runs", .array [.object [
      ("invocations", .array [invocationJson report]),
      ("results", .array ((results report).map Result.toJson)),
      ("tool", toolJson (rules report))]]),
    ("version", .string "2.1.0")]

def text (report : ProjectReport) : String :=
  (log report).compact ++ "\n"

end GrantSurvey.Sarif
