import GrantSurvey.Permission

/-!
# Findings

A finding is a call that needs permissions, told by the method in which it stands. The findings of
a class are ordered by line; those without a line come first.
-/

namespace GrantSurvey

/-- A call that needs permissions. The class name has slashes, as in the class file. -/
structure Finding where
  className : String
  method : String
  descriptor : String
  line : Option Nat
  permissions : List Permission
  deriving DecidableEq, Repr

namespace Finding

def policy (finding : Finding) : List String :=
  finding.permissions.map Permission.grant

def lineNumber (finding : Finding) : Int :=
  match finding.line with
  | some line => line
  | none => -1

def trimSlashes (text : String) : String :=
  String.ofList (text.toList.reverse.dropWhile (· == '/')).reverse

/-- The address of the line in a rendering of the sources below `base`, if the line is known. -/
def crossReference (base : String) (finding : Finding) : Option String :=
  finding.line.map fun line => s!"{trimSlashes base}/{finding.className}.html#{line}"

/-- Does a line come no later than another? An unknown line comes first. -/
def lineLe : Option Nat → Option Nat → Bool
  | none, _ => true
  | some _, none => false
  | some first, some second => first ≤ second

/-- Orders findings by line; findings of one line keep their order. -/
def orderByLine (findings : List Finding) : List Finding :=
  findings.mergeSort fun first second => lineLe first.line second.line

end Finding

end GrantSurvey
