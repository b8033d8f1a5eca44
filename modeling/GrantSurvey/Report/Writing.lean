import GrantSurvey.Report.Findings
import GrantSurvey.Report.Policy
import GrantSurvey.Report.Sarif

/-!
# Writing reports

A report is written in one of three formats. The options do not change what was found.
-/

namespace GrantSurvey

namespace Report

inductive Format where
  | policy
  | json
  | sarif
  deriving DecidableEq, Repr

def Format.ofName? : String → Option Format
  | "policy" => some .policy
  | "json" => some .json
  | "sarif" => some .sarif
  | _ => none

structure Options where
  format : Format
  perModule : Bool
  linkBase : Option String
  deriving DecidableEq, Repr

end Report

def ProjectReport.text (report : ProjectReport) (options : Report.Options) : String :=
  match options.format with
  | .policy => Report.policyText report options.perModule
  | .json => Report.jsonText report options.linkBase
  | .sarif => Sarif.text report

end GrantSurvey
