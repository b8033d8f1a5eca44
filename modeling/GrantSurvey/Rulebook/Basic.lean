import GrantSurvey.Call
import GrantSurvey.Rulebook.Template

/-!
# Rulebooks

A rulebook says which calls need permissions. A rule is about one method of one class, either with
one descriptor or with any. A call is looked up by its exact descriptor first.
-/

namespace GrantSurvey

namespace Rulebook

/-- The method that a rule is about; without a descriptor it is about every overload. -/
structure Key where
  owner : String
  name : String
  descriptor : Option String
  deriving DecidableEq, Repr

def Key.label (key : Key) : String :=
  key.owner ++ "." ++ key.name ++ key.descriptor.getD " (any descriptor)"

structure Rule where
  key : Key
  templates : List Template
  deriving DecidableEq, Repr

end Rulebook

/-- Rules with different keys. -/
structure Rulebook where
  rules : List Rulebook.Rule
  deriving DecidableEq, Repr

namespace Rulebook

def empty : Rulebook := ⟨[]⟩

def size (book : Rulebook) : Nat :=
  book.rules.length

def find? (book : Rulebook) (key : Key) : Option (List Template) :=
  (book.rules.find? fun rule => rule.key == key).map (·.templates)

/-- Puts a rule in the place of the one with its key, or at the end. -/
def insertRule (rule : Rule) : List Rule → List Rule
  | [] => [rule]
  | first :: others =>
      if first.key == rule.key then rule :: others else first :: insertRule rule others

def insert (book : Rulebook) (rule : Rule) : Rulebook :=
  ⟨insertRule rule book.rules⟩

/-- The rulebook with all rules of a second one, which replace those with their keys. -/
def overlay (book extension : Rulebook) : Rulebook :=
  extension.rules.foldl insert book

/-- The templates for a method: by its descriptor, or else by its name alone. -/
def lookup (book : Rulebook) (symbol : ClassFile.MethodSymbol) : List Template :=
  match book.find? ⟨symbol.owner, symbol.name, some symbol.descriptor⟩ with
  | some templates => templates
  | none => (book.find? ⟨symbol.owner, symbol.name, none⟩).getD []

def permissions (book : Rulebook) (symbol : ClassFile.MethodSymbol)
    (arguments : List (Option ClassFile.Literal)) : List Permission :=
  (book.lookup symbol).map (·.resolve arguments)

def require (book : Rulebook) (call : Call) : List Permission :=
  book.permissions call.callee call.arguments

end Rulebook

end GrantSurvey
