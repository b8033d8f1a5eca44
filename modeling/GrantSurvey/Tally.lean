import GrantSurvey.Finding

/-!
# Modules and their union

A module is one surveyed artifact with its findings. Modules are tallied in order: the project and
its compile-time dependencies add to the policy, the dependencies also to a policy of their own,
and test modules to neither.
-/

namespace GrantSurvey

inductive Scope where
  | project
  | compile
  | test
  deriving DecidableEq, Repr

def Scope.label : Scope → String
  | project => "project"
  | compile => "compile"
  | test => "test"

/-- What a module requires: a kind and a target, whatever the actions. -/
structure Requirement where
  kind : String
  target : String
  deriving DecidableEq, Repr

instance : Ord Requirement where
  compare first second :=
    (compare first.kind second.kind).then (compare first.target second.target)

structure ModuleSurvey where
  name : String
  scope : Scope
  findings : List Finding
  deriving DecidableEq, Repr

namespace ModuleSurvey

/-- All permissions that the module needs, in the order of the findings. -/
def permissions (survey : ModuleSurvey) : List Permission :=
  survey.findings.flatMap (·.permissions)

def policy (survey : ModuleSurvey) : PolicySet :=
  PolicySet.ofList (survey.findings.flatMap (·.policy))

/-- What the module requires, each once, in ascending order. -/
def requirements (survey : ModuleSurvey) : List Requirement :=
  Ordered.ofList (survey.permissions.map fun permission =>
    ⟨permission.kind, permission.target⟩)

/-- The labels of the permissions, each once, in ascending order. -/
def keys (survey : ModuleSurvey) : List String :=
  Ordered.ofList (survey.permissions.map Permission.key)

end ModuleSurvey

/-- The modules tallied so far and the policies they add up to. -/
structure Tally where
  modules : List ModuleSurvey
  policy : PolicySet
  dependencyPolicy : PolicySet
  deriving DecidableEq, Repr

namespace Tally

def empty : Tally := ⟨[], .empty, .empty⟩

def add (tally : Tally) (survey : ModuleSurvey) : Tally :=
  let modules := tally.modules ++ [survey]
  match survey.scope with
  | .project => { tally with modules, policy := tally.policy.union survey.policy }
  | .compile =>
      { modules
        policy := tally.policy.union survey.policy
        dependencyPolicy := tally.dependencyPolicy.union survey.policy }
  | .test => { tally with modules }

def ofList (modules : List ModuleSurvey) : Tally :=
  modules.foldl add empty

end Tally

end GrantSurvey
