import GrantSurvey.Json.Value

/-!
# Diagnostics

What went wrong while an artifact was surveyed. A diagnostic is part of the report and never ends
the survey: an archive that cannot be read leaves the other archives alone, a class that cannot be
read leaves the other classes alone.
-/

namespace GrantSurvey

/-- An archive or a class that could not be surveyed. -/
inductive Diagnostic where
  | unreadableArchive (module reason : String)
  | malformedClass (module entry reason : String)
  deriving DecidableEq, Repr

namespace Diagnostic

def module : Diagnostic → String
  | unreadableArchive module _ => module
  | malformedClass module _ _ => module

def kind : Diagnostic → String
  | unreadableArchive _ _ => "unreadable_archive"
  | malformedClass _ _ _ => "malformed_class"

def message : Diagnostic → String
  | unreadableArchive module reason => s!"cannot read archive {module}: {reason}"
  | malformedClass module entry reason => s!"malformed class {entry} in {module}: {reason}"

def toJson (diagnostic : Diagnostic) : Json :=
  match diagnostic with
  | unreadableArchive module reason =>
      .object [("kind", .string diagnostic.kind), ("module", .string module),
        ("reason", .string reason)]
  | malformedClass module entry reason =>
      .object [("kind", .string diagnostic.kind), ("module", .string module),
        ("entry", .string entry), ("reason", .string reason)]

end Diagnostic

end GrantSurvey
