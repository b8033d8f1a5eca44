import GrantSurvey.Text.Utf8

/-!
# Targets of requests

A request can be sent to a URL if it is written in few enough characters that are all allowed, and
has an authority with a host and at most one number behind it. Brackets hold at most one address,
and bytes written with a percent sign stand only in the user or inside of brackets. A text without
a scheme is an authority alone.
-/

namespace GrantSurvey.Url.Target

inductive Fault where
  | tooLong
  | schemeTooLong
  | invalidCharacter
  | invalidAuthority
  | invalidFormat
  deriving DecidableEq, Repr

def Fault.message : Fault → String
  | tooLong => "uri too long"
  | schemeTooLong => "scheme too long"
  | invalidCharacter => "invalid uri character"
  | invalidAuthority => "invalid authority"
  | invalidFormat => "invalid format"

/-! ## Characters -/

def endsAuthority (char : Char) : Bool :=
  char == '/' || char == '?' || char == '#'

def isAuthorityChar (char : Char) : Bool :=
  char.isAlphanum || "!$&'()*+,-.:;=@[]_~%".toList.contains char

def isPathChar (char : Char) : Bool :=
  0x21 ≤ char.toNat && char.toNat ≤ 0x7E && !"#<>?`".toList.contains char

def isQueryChar (char : Char) : Bool :=
  0x21 ≤ char.toNat && char.toNat ≤ 0x7E && !"\"#<>".toList.contains char

/-! ## Scheme -/

def schemeLimit : Nat := 64

def isSchemeChar (char : Char) : Bool :=
  char.isAlphanum || char == '+' || char == '-' || char == '.'

def behindScheme? (text : List Char) : Except Fault (Option (List Char)) :=
  match text.dropWhile isSchemeChar with
  | ':' :: '/' :: '/' :: rest =>
      if schemeLimit < (text.takeWhile isSchemeChar).length then .error .schemeTooLong
      else .ok (some rest)
  | _ => .ok none

/-! ## Authority -/

structure Seen where
  colons : Nat
  isOpened : Bool
  isClosed : Bool
  hasPercent : Bool
  endsWithAt : Bool

/-- The number of colons in the longest address with a number behind it. -/
def colonLimit : Nat := 8

/-- Sees one more character. A closing bracket and an at sign make forget what is before them. -/
def Seen.next (seen : Seen) (char : Char) : Except Fault Seen :=
  let seen := { seen with endsWithAt := char == '@' }
  match char with
  | ':' =>
      if colonLimit ≤ seen.colons then .error .invalidAuthority
      else .ok { seen with colons := seen.colons + 1 }
  | '[' =>
      if seen.hasPercent || seen.isOpened then .error .invalidAuthority
      else .ok { seen with isOpened := true }
  | ']' =>
      if !seen.isOpened || seen.isClosed then .error .invalidAuthority
      else .ok { seen with isClosed := true, colons := 0, hasPercent := false }
  | '@' => .ok { seen with colons := 0, hasPercent := false }
  | '%' => .ok { seen with hasPercent := true }
  | _ => if isAuthorityChar char then .ok seen else .error .invalidCharacter

def Seen.isComplete (seen : Seen) : Bool :=
  seen.isOpened == seen.isClosed && seen.colons ≤ 1 && !seen.endsWithAt && !seen.hasPercent

def checkAuthority (authority : List Char) : Except Fault Unit := do
  let seen ← authority.foldlM Seen.next ⟨0, false, false, false, false⟩
  if seen.isComplete then .ok () else .error .invalidAuthority

/-! ## Path and query -/

def checkPath (text : List Char) : Except Fault Unit :=
  let shown := text.takeWhile (· != '#')
  let path := shown.takeWhile (· != '?')
  let query := (shown.dropWhile (· != '?')).drop 1
  if path.all isPathChar && query.all isQueryChar then .ok () else .error .invalidCharacter

def lengthLimit : Nat := 65534

def check (text : String) : Except Fault Unit := do
  let chars := text.toList
  if lengthLimit < (Utf8.encode chars).length then throw .tooLong
  let behind ← behindScheme? chars
  let rest := behind.getD chars
  let authority := rest.takeWhile fun char => !endsAuthority char
  checkAuthority authority
  if behind.isNone then
    if authority.length < rest.length then throw .invalidFormat
  else if authority.isEmpty then throw .invalidFormat
  else checkPath (rest.drop authority.length)

end GrantSurvey.Url.Target
