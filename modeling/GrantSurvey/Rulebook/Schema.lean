import GrantSurvey.Json.Value

/-!
# The shape of rulebook files

What a JSON value has to look like to be a rulebook, and everything that is wrong with one that
does not. The findings about an object are those about its members, in the order of the members,
then the members that do not belong there; members that are missing come before all this, except
at the outermost level.
-/

namespace GrantSurvey.Rulebook

inductive Violation where
  | wrongType (value : Json) (expected : String)
  | missing (name : String)
  | unexpected (names : List String)
  | mismatch (value : Json) (pattern : String)
  | tooShort (value : Json)
  | tooFew (value : Json)
  | noAlternative (value : Json)
  deriving Repr

def Violation.message : Violation → String
  | wrongType value expected => value.compact ++ " is not of type \"" ++ expected ++ "\""
  | missing name => Json.quoted name ++ " is a required property"
  | unexpected names =>
      "Additional properties are not allowed ("
        ++ ", ".intercalate (names.map fun name => "'" ++ name ++ "'")
        ++ (if names.length = 1 then " was unexpected)" else " were unexpected)")
  | mismatch value pattern => value.compact ++ " does not match \"" ++ pattern ++ "\""
  | tooShort value => value.compact ++ " is shorter than 1 character"
  | tooFew value => value.compact ++ " has less than 1 item"
  | noAlternative value =>
      value.compact ++ " is not valid under any of the schemas listed in the 'oneOf' keyword"

namespace Schema

abbrev Check := Json → List Violation

def text : Check
  | .string _ => []
  | value => [.wrongType value "string"]

def nonEmptyText : Check
  | .string "" => [.tooShort (.string "")]
  | value => text value

def textLike (pattern : String) (accepts : List Char → Bool) : Check
  | .string value =>
      if accepts value.toList then [] else [.mismatch (.string value) pattern]
  | value => [.wrongType value "string"]

def listOf (check : Check) : Check
  | .array items => items.flatMap check
  | value => [.wrongType value "array"]

def nonEmptyListOf (check : Check) : Check
  | .array [] => [.tooFew (.array [])]
  | value => listOf check value

def missing (required : List String) (members : List (String × Json)) : List Violation :=
  (required.filter fun name => (members.lookup name).isNone).map .missing

/-- What is wrong with the members of an object, each of which has to be known. -/
def membersOf (known : List (String × Check)) (members : List (String × Json)) :
    List Violation :=
  let wrong := members.flatMap fun (name, value) =>
    match known.lookup name with
    | some check => check value
    | none => []
  let strangers := (members.map (·.1)).filter fun name => (known.lookup name).isNone
  wrong ++ if strangers.isEmpty then [] else [.unexpected strangers]

def objectOf (required : List String) (known : List (String × Check)) : Check
  | .object members => missing required members ++ membersOf known members
  | value => [.wrongType value "object"]

def either (first second : Check) : Check := fun value =>
  if (first value).isEmpty != (second value).isEmpty then [] else [.noAlternative value]

/-- The name of a class: not empty, with no period, semicolon or bracket. -/
def isOwner (name : List Char) : Bool :=
  !name.isEmpty && name.all fun char => char != '.' && char != ';' && char != '['

/-- Does some closing parenthesis have a character after it? -/
def closes : List Char → Bool
  | ')' :: _ :: _ => true
  | _ :: rest => closes rest
  | [] => false

/-- The outline of a descriptor: one line that starts with an opening parenthesis and has something
after a closing one. -/
def isDescriptorLike : List Char → Bool
  | '(' :: rest => closes rest && !rest.contains '\n'
  | _ => false

def target : Check :=
  either (objectOf ["literal"] [("literal", text)])
    (objectOf ["substitute"]
      [("substitute", objectOf ["pattern", "wildcard"] [("pattern", text), ("wildcard", text)])])

def permission : Check :=
  objectOf ["kind", "target"] [("kind", nonEmptyText), ("target", target), ("actions", text)]

def entry : Check :=
  objectOf ["owner", "name", "permissions"]
    [("owner", textLike "^[^.;\\[]+$" isOwner), ("name", nonEmptyText),
      ("descriptor", textLike "^\\(.*\\).+$" isDescriptorLike),
      ("permissions", nonEmptyListOf permission)]

def file : Check
  | .object members => membersOf [("entries", listOf entry)] members ++ missing ["entries"] members
  | value => [.wrongType value "object"]

end Schema

end GrantSurvey.Rulebook
