import GrantSurvey.Ordered

/-!
# Permissions and policies

A permission names its kind, the target that it is about, and the actions that it allows. A policy
is a set of grant statements, written as a block that may be confined to one code base.
-/

namespace GrantSurvey

/-- A permission. The actions are empty for kinds that take none. -/
structure Permission where
  kind : String
  target : String
  actions : String
  deriving DecidableEq, Repr

namespace Permission

def escape (text : String) : String :=
  String.ofList (text.toList.flatMap fun char =>
    if char == '"' || char == '\\' then ['\\', char] else [char])

def grant (permission : Permission) : String :=
  "permission " ++ permission.kind ++ " \"" ++ escape permission.target ++ "\""
    ++ (if permission.actions.isEmpty then "" else ", \"" ++ escape permission.actions ++ "\"")
    ++ ";"

/-- The label of a permission in a graph, which leaves the actions out. -/
def key (permission : Permission) : String :=
  permission.kind ++ "." ++ permission.target

end Permission

structure PolicySet where
  statements : List String
  deriving DecidableEq, Repr

namespace PolicySet

def empty : PolicySet := ⟨[]⟩

def ofList (statements : List String) : PolicySet :=
  ⟨Ordered.ofList statements⟩

def extend (policy : PolicySet) (statements : List String) : PolicySet :=
  ⟨Ordered.union policy.statements statements⟩

def union (policy other : PolicySet) : PolicySet :=
  policy.extend other.statements

def size (policy : PolicySet) : Nat :=
  policy.statements.length

def isEmpty (policy : PolicySet) : Bool :=
  policy.statements.isEmpty

/-- The first line of a block. An empty name confines nothing. -/
def heading (codebase : Option String) : String :=
  match codebase with
  | some name => if name.isEmpty then "grant \x7b\n" else s!"grant codebase \"file:/{name}\" \x7b\n"
  | none => "grant \x7b\n"

def block (policy : PolicySet) (codebase : Option String) : String :=
  heading codebase ++ String.join (policy.statements.map fun statement => "\t" ++ statement ++ "\n")
    ++ "\x7d;\n"

end PolicySet

end GrantSurvey
