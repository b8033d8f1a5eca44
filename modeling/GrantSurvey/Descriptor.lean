import GrantSurvey.Account
import GrantSurvey.Text.Quoted

/-!
# Method descriptors

A method descriptor lists the types of a method's parameters in parentheses and then its result
type. What follows the result type is not looked at.
-/

namespace GrantSurvey

inductive JavaType where
  | primitive (code : Char)
  | reference (name : String)
  | array (dimensions : Nat) (element : JavaType)
  deriving DecidableEq, Repr

/-- The types of a method's parameters and result. -/
structure Descriptor where
  parameters : List JavaType
  result : JavaType
  deriving DecidableEq, Repr

namespace Descriptor

inductive Fault where
  | unexpectedEnd
  | tooManyDimensions
  | missingParenthesis
  | missingSemicolon
  | emptyElement
  | unknownType
  | missingResult
  deriving DecidableEq, Repr

def Fault.message : Fault → String
  | unexpectedEnd => "Unexpected end of input."
  | tooManyDimensions => "Array has too many dimensions."
  | missingParenthesis => "Invalid descriptor: Method descriptor must start with '('."
  | missingSemicolon => "Invalid descriptor: Missing semicolon in class name descriptor."
  | emptyElement => "Invalid descriptor: Invalid descriptor."
  | unknownType => "Invalid descriptor: Unrecognized type descriptor."
  | missingResult => "Invalid descriptor: Missing return type."

/-- The letters of the types that have no name; the empty type is allowed anywhere. -/
def primitiveCodes : List Char := ['Z', 'B', 'C', 'S', 'I', 'J', 'F', 'D', 'V']

def maxDimensions : Nat := 255

/-- What is left of a text after some of its characters. -/
abbrev Shorter (text : List Char) := { rest : List Char // rest.length < text.length }

def className? : (text : List Char) → Option (List Char × Shorter text)
  | [] => none
  | char :: text =>
      if char == ';' then some ([], ⟨text, by simp⟩)
      else (className? text).map fun (name, rest) =>
        (char :: name, ⟨rest.1, by have := rest.2; simp only [List.length_cons]; omega⟩)

def elementType : (text : List Char) → Except Fault (JavaType × Shorter text)
  | [] => .error .unexpectedEnd
  | char :: text =>
      if char == 'L' then
        match className? text with
        | some (name, rest) =>
            .ok (.reference (String.ofList name),
              ⟨rest.1, Nat.le_succ_of_le rest.2⟩)
        | none => .error .missingSemicolon
      else if primitiveCodes.contains char then .ok (.primitive char, ⟨text, by simp⟩)
      else .error .unknownType

/-- The rest after the brackets of an array type, with their number, if there are not too many. -/
def brackets (room : Nat) : (text : List Char) →
    Except Fault (Nat × { rest : List Char // rest.length ≤ text.length })
  | [] => .ok (0, ⟨[], Nat.le_refl _⟩)
  | char :: text =>
      if char == '[' then
        match room with
        | 0 => .error .tooManyDimensions
        | room + 1 => do
            let (count, rest) ← brackets room text
            return (count + 1,
              ⟨rest.1, Nat.le_succ_of_le rest.2⟩)
      else .ok (0, ⟨char :: text, Nat.le_refl _⟩)

/-- A type. After brackets an element type has to follow. -/
def javaType (text : List Char) : Except Fault (JavaType × Shorter text) := do
  let (dimensions, element) ← brackets maxDimensions text
  if dimensions = 0 then elementType text
  else if element.1.head? = some ')' then .error .emptyElement
  else
    let (type, rest) ← elementType element.1
    return (.array dimensions type,
      ⟨rest.1, by have := rest.2; have := element.2; omega⟩)

def parameterTypes (text : List Char) : Except Fault (List JavaType × List Char) :=
  match text with
  | [] => .error .unexpectedEnd
  | ')' :: rest => .ok ([], rest)
  | text => do
      let (type, rest) ← javaType text
      let (types, after) ← parameterTypes rest.1
      return (type :: types, after)
  termination_by text.length
  decreasing_by have := rest.2; omega

def resultType (text : List Char) : Except Fault JavaType :=
  if text.head? = some ')' then .error .missingResult
  else do
    let (type, _) ← javaType text
    return type

def parse (text : String) : Except Fault Descriptor :=
  match text.toList with
  | '(' :: rest => do
      let (parameters, rest) ← parameterTypes rest
      let result ← resultType rest
      return { parameters, result }
  | _ => .error .missingParenthesis

def parameterCount (text : String) : Except Account Nat :=
  match parse text with
  | .ok descriptor => .ok descriptor.parameters.length
  | .error fault => .error ["parse method descriptor", fault.message]

def validate (text : String) : Except Account Unit :=
  match parse text with
  | .ok _ => .ok ()
  | .error fault => .error ["invalid method descriptor " ++ Text.quoted text, fault.message]

end Descriptor

end GrantSurvey
