import GrantSurvey.Url.Domain.Admission
import GrantSurvey.Url.Domain.Composition
import GrantSurvey.Url.Domain.Direction
import GrantSurvey.Url.Domain.Joining
import GrantSurvey.Url.Domain.Punycode
import GrantSurvey.Url.Domain.Replacement

/-!
# Labels of a domain

A domain is a row of labels with points between them. A label starts with no mark, has joiners only
where they join something, and keeps to one direction if any label of its domain is written to the
left. A label in ASCII letters may stand for one with other characters, which then has to keep the
rules itself and to be written as no other label would be.
-/

namespace GrantSurvey.Url.Domain

/-! ## Joiners -/

def nonJoiner : Char := Char.ofNat 0x200C

def joiner : Char := Char.ofNat 0x200D

/-- Does the next character that no joint goes through join in one of the given ways? -/
def reaches (ways : List Joining) (text : List Char) : Bool :=
  match text.find? fun char => Joining.ofChar char != .through with
  | some char => ways.contains (Joining.ofChar char)
  | none => false

/-- Is the character before a sign, the first of a reversed text, one without its vowel? -/
def followsVirama (before : List Char) : Bool :=
  match before with
  | char :: _ => place char == viramaPlace
  | [] => false

/-- May a character stand between the reversed text before it and the text after it? -/
def joinerFits (before : List Char) (char : Char) (after : List Char) : Bool :=
  if char == joiner then followsVirama before
  else if char == nonJoiner then
    followsVirama before
      || (reaches [.after, .both] before && reaches [.before, .both] after)
  else true

/-- Do the joiners of a text fit, behind a reversed text? -/
def joinersFit (before : List Char) : List Char → Bool
  | [] => true
  | char :: after => joinerFits before char after && joinersFit (char :: before) after

/-! ## Directions -/

/-- Does a character make its domain one of two directions? -/
def turnsLeft (char : Char) : Bool :=
  match Direction.ofChar char with
  | .leftward | .arabicDigit => true
  | _ => false

def directions (label : List Char) : List Direction :=
  ((label.map Direction.ofChar).reverse.dropWhile (· == .mark)).reverse

def keepsRight (label : List Direction) : Bool :=
  label.all (fun direction =>
    [Direction.rightward, .europeanDigit, .neutral, .mark].contains direction)
  && match label.getLast? with
    | some last => [Direction.rightward, .europeanDigit].contains last
    | none => false

def keepsLeft (label : List Direction) : Bool :=
  label.all (fun direction =>
    [Direction.leftward, .arabicDigit, .europeanDigit, .neutral, .mark].contains direction)
  && !(label.contains .europeanDigit && label.contains .arabicDigit)
  && match label.getLast? with
    | some last => [Direction.leftward, .europeanDigit, .arabicDigit].contains last
    | none => false

def keepsDirection (label : List Char) : Bool :=
  let row := directions label
  match row with
  | .rightward :: _ => keepsRight row
  | .leftward :: _ => keepsLeft row
  | _ => label.isEmpty

/-! ## Valid labels -/

/-- Is a character beyond ASCII, if it is one, kept as it is? -/
def isKept (char : Char) : Bool :=
  char.toNat < 0x80 || !(isRefused char || isIgnored char || (replacement? char).isSome)

def isWellFormed (label : List Char) : Bool :=
  !(label.head?.any isCombining) && joinersFit [] label

/-- What a label in ASCII letters starts with if it stands for another one. -/
def asciiMark : List Char := ['x', 'n', '-', '-']

def readLimit : Nat := 2000

def writeLimit : Nat := 1000

def isAscii (text : List Char) : Bool :=
  text.all fun char => char.toNat < 0x80

def decoded? (digits : List Char) : Option (List Char) :=
  if readLimit < digits.length then none
  else
    match Punycode.decode? digits with
    | none => none
    | some label =>
        if isAscii label || !label.all isKept || composed label != label then none
        else some label

/-- The characters that a label stands for, if it is well formed. -/
def meaning? (label : List Char) : Option (List Char) := do
  let meant ←
    if asciiMark.isPrefixOf label then
      if isAscii label then decoded? (label.drop asciiMark.length) else none
    else some label
  if isWellFormed meant then some meant else none

def inAscii? (label : List Char) : Option (List Char) :=
  if isAscii label then some label
  else if writeLimit < label.length then none
  else some (asciiMark ++ Punycode.encode label)

end GrantSurvey.Url.Domain
