import GrantSurvey.Url.Address
import GrantSurvey.Url.Domain
import GrantSurvey.Url.Fault
import GrantSurvey.Url.Percent

/-!
# Hosts

The host of a web address is a domain or a numeric address; that of any other URL is a numeric
address in brackets or a text that is taken as it is.
-/

namespace GrantSurvey.Url

def bracketedHost (text : List Char) : Except Fault String :=
  match text.getLast? with
  | some ']' =>
      match eightPieces? text.dropLast with
      | some pieces => .ok s!"[{eightPiecesText pieces}]"
      | none => .error .invalidEightPieces
  | _ => .error .invalidEightPieces

/-- The host that a domain stands for, which may be an address of four bytes. -/
def domainHost (domain : List Char) : Except Fault String :=
  if domain.isEmpty then .error .emptyHost
  else if endsInNumber domain then
    match fourBytes? domain with
    | some address => .ok (fourBytesText address)
    | none => .error .invalidFourBytes
  else .ok (String.ofList domain)

def webHost (text : List Char) : Except Fault String :=
  match text with
  | '[' :: rest => bracketedHost rest
  | _ =>
      match (Utf8.decode? (decodedBytes text)).bind Domain.toAscii? with
      | some domain => domainHost domain
      | none => .error .invalidDomain

/-- May a character not stand in a host that is taken as it is? -/
def isForbiddenInHost (char : Char) : Bool :=
  char == Char.ofNat 0 || "\t\n\r #/:<>?@[\\]^|".toList.contains char

def plainHost (text : List Char) : Except Fault String :=
  match text with
  | '[' :: rest => bracketedHost rest
  | _ =>
      if text.any isForbiddenInHost then .error .invalidCharacter
      else .ok (Part.host.encode text)

end GrantSurvey.Url
