import GrantSurvey.Json.Parser
import GrantSurvey.Rulebook.Basic
import GrantSurvey.Rulebook.Schema

/-!
# Loading rulebooks

A rulebook is loaded from the text of a JSON file: the text is parsed, its shape is checked as a
whole, and then its entries are taken one by one. Loading stops at the first entry whose descriptor
cannot be read or whose key has been seen before.
-/

namespace GrantSurvey.Rulebook

inductive LoadFault where
  | notJson (source : String) (fault : Json.ParseFault)
  | invalid (source : String) (violations : List Violation)
  | untyped (source : String)
  | badDescriptor (source : String) (key : Key) (causes : Account)
  | duplicate (source : String) (key : Key)
  deriving Repr

def LoadFault.account : LoadFault → Account
  | notJson source fault => [s!"parse {source} as JSON", fault.message]
  | invalid source violations =>
      [s!"validate {source}",
        "knowledge base schema validation failed:\n"
          ++ "\n".intercalate (violations.map Violation.message)]
  | untyped source => [s!"{source}: unexpected value"]
  | badDescriptor source key causes => s!"{source}: entry {key.owner}.{key.name}" :: causes
  | duplicate source key => [s!"{source}: duplicate entry {key.label}"]

def text? : Json → Option String
  | .string value => some value
  | _ => none

def items? : Json → Option (List Json)
  | .array items => some items
  | _ => none

/-- The value itself, if it is an object with no members but the known ones. -/
def record? (known : List String) (json : Json) : Option Json :=
  match json with
  | .object members =>
      if members.all fun member => known.contains member.1 then some json else none
  | _ => none

/-- A target from its value, which is named by its only member. -/
def target? (json : Json) : Option Target :=
  match record? ["literal"] json with
  | some record => do return .literal (← text? (← record.member? "literal"))
  | none => do
      let record ← record? ["substitute"] json
      let parts ← record? ["pattern", "wildcard"] (← record.member? "substitute")
      let pattern ← text? (← parts.member? "pattern")
      let wildcard ← text? (← parts.member? "wildcard")
      return .substitute pattern wildcard

/-- The actions of a template, which are empty if they are left out. -/
def actions? (json : Json) : Option String :=
  match json.member? "actions" with
  | some value => text? value
  | none => some ""

def template? (json : Json) : Option Template := do
  let record ← record? ["kind", "target", "actions"] json
  let kind ← text? (← record.member? "kind")
  let target ← target? (← record.member? "target")
  let actions ← actions? record
  return { kind, target, actions }

/-- The descriptor of a rule. One that is null counts as none. -/
def descriptor? (json : Json) : Option (Option String) :=
  match json.member? "descriptor" with
  | none | some .null => some none
  | some value => (text? value).map some

def rule? (json : Json) : Option Rule := do
  let record ← record? ["owner", "name", "descriptor", "permissions"] json
  let owner ← text? (← record.member? "owner")
  let name ← text? (← record.member? "name")
  let descriptor ← descriptor? record
  let templates ← (← items? (← record.member? "permissions")).mapM template?
  return { key := { owner, name, descriptor }, templates }

def rules? (json : Json) : Option (List Rule) := do
  let record ← record? ["entries"] json
  (← items? (← record.member? "entries")).mapM rule?

/-- Adds a rule whose descriptor can be read and whose key is new. -/
def enter (source : String) (book : Rulebook) (rule : Rule) : Except LoadFault Rulebook :=
  let descriptor := match rule.key.descriptor with
    | some descriptor => Descriptor.validate descriptor
    | none => .ok ()
  match descriptor with
  | .error causes => .error (.badDescriptor source rule.key causes)
  | .ok () =>
      if (book.find? rule.key).isSome then .error (.duplicate source rule.key)
      else .ok ⟨book.rules ++ [rule]⟩

def ofJson (source : String) (json : Json) : Except LoadFault Rulebook :=
  let violations := Schema.file json
  if violations.isEmpty then
    match rules? json with
    | some rules => rules.foldlM (enter source) empty
    | none => .error (.untyped source)
  else .error (.invalid source violations)

def load (source text : String) : Except LoadFault Rulebook :=
  match Json.parse text with
  | .ok json => ofJson source json
  | .error fault => .error (.notJson source fault)

end GrantSurvey.Rulebook
