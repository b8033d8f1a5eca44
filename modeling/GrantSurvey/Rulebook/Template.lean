import GrantSurvey.ClassFile.Instruction
import GrantSurvey.Permission
import GrantSurvey.Text.Decimal

/-!
# Permission templates

A template says which permission a call needs. Its target is fixed, or a pattern with numbered
placeholders for the call's arguments; where a referenced argument is unknown, a wildcard takes the
place of the whole target.
-/

namespace GrantSurvey.Rulebook

open ClassFile (Literal)

inductive Target where
  | literal (text : String)
  | substitute (pattern wildcard : String)
  deriving DecidableEq, Repr

/-- A permission that a call needs, up to the call's arguments. -/
structure Template where
  kind : String
  target : Target
  actions : String
  deriving DecidableEq, Repr

/-- The placeholder whose text follows an opening brace: its number, and how many characters it
takes with the closing brace. -/
def placeholder? (text : List Char) : Option (Nat × Nat) :=
  let inside := text.takeWhile (· != '}')
  if inside.length < text.length then
    (Text.unsigned? inside).map fun index => (index, inside.length + 1)
  else none

/-- Fills in the placeholders of a pattern; `none` if an argument that it refers to is unknown. A
brace that opens no placeholder stands for itself. -/
def substitute (arguments : List (Option Literal)) : List Char → Option (List Char)
  | [] => some []
  | char :: rest =>
      if char == '{' then
        match placeholder? rest with
        | some (index, length) =>
            match arguments[index]? with
            | some (some argument) =>
                (substitute arguments (rest.drop length)).map (argument.render.toList ++ ·)
            | _ => none
        | none => (substitute arguments rest).map (char :: ·)
      else (substitute arguments rest).map (char :: ·)
  termination_by pattern => pattern.length
  decreasing_by all_goals simp only [List.length_drop, List.length_cons]; omega

def Target.resolve (arguments : List (Option Literal)) : Target → String
  | literal text => text
  | substitute pattern wildcard =>
      match Rulebook.substitute arguments pattern.toList with
      | some text => String.ofList text
      | none => wildcard

def Template.resolve (template : Template) (arguments : List (Option Literal)) : Permission where
  kind := template.kind
  target := template.target.resolve arguments
  actions := template.actions

end GrantSurvey.Rulebook
