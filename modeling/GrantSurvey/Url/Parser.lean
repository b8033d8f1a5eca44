import GrantSurvey.Text.Decimal
import GrantSurvey.Text.Split
import GrantSurvey.Url.Basic
import GrantSurvey.Url.Host

/-!
# Reading a URL

A URL is read from the left, and what is left of the text is handed on. Controls and blanks around
it and all tabs and ends of lines count for nothing. A web address has a host, however many slashes
stand before it; a file may have one; any other URL has one only behind two slashes.
-/

namespace GrantSurvey.Url

def essential (text : String) : List Char :=
  (Text.trimBy (fun char => char.toNat ≤ 0x20) text.toList).filter fun char =>
    char != '\t' && char != '\n' && char != '\r'

def isSchemeChar (char : Char) : Bool :=
  char.isAlphanum || char == '+' || char == '-' || char == '.'

def scheme? (text : List Char) : Option (String × List Char) :=
  match text.dropWhile isSchemeChar with
  | ':' :: rest =>
      if text.head?.any Char.isAlpha then
        some (String.ofList ((text.takeWhile isSchemeChar).map Char.toLower), rest)
      else none
  | _ => none

/-! ## Query and fragment -/

def behind? (mark : Char) : List Char → Option (List Char)
  | char :: rest => if char == mark then some rest else none
  | [] => none

def endsPath (char : Char) : Bool :=
  char == '?' || char == '#'

def queryOf (kind : Kind) (text : List Char) : Option String :=
  let part := if kind == .other then Part.query else Part.webQuery
  (behind? '?' text).map fun rest => part.encode (rest.takeWhile (· != '#'))

def fragmentOf (text : List Char) : Option String :=
  (behind? '#' (text.dropWhile (· != '#'))).map Part.fragment.encode

/-- The URL of a scheme, an authority and a path, with what follows the path. -/
def finish (scheme : String) (authority : Option Authority) (path : Path) (rest : List Char) :
    Url :=
  { scheme
    authority
    isGuarded := authority.isNone && path.text.startsWith "//"
    path
    query := queryOf (Kind.ofScheme scheme) rest
    fragment := fragmentOf rest }

/-! ## Authority -/

def endsAuthority (kind : Kind) (char : Char) : Bool :=
  kind.isSlash char || endsPath char

/-- A user and a password as they are written; a password that is empty is left out. -/
def userText (text : List Char) : String :=
  let name := Part.user.encode (text.takeWhile (· != ':'))
  match (text.dropWhile (· != ':')).drop 1 with
  | [] => name
  | password => name ++ ":" ++ Part.user.encode password

/-- The user before the last at sign of an authority, and what follows it. -/
def splitUser (kind : Kind) (text : List Char) : Except Fault (String × List Char) :=
  let authority := text.takeWhile fun char => !endsAuthority kind char
  let hostLength := (authority.reverse.takeWhile (· != '@')).length
  if hostLength == authority.length then .ok ("", text)
  else
    let rest := text.drop (authority.length - hostLength)
    let user := authority.take (authority.length - hostLength - 1)
    if user.isEmpty && rest.head?.any (endsAuthority kind) then .error .emptyHost
    else .ok (userText user, rest)

/-- The text of a host: up to a colon outside of brackets, or the end of the authority. -/
def hostText (kind : Kind) (isBracketed : Bool) : List Char → List Char
  | [] => []
  | char :: rest =>
      if endsAuthority kind char || (char == ':' && !isBracketed) then []
      else
        char :: hostText kind (if char == '[' then true else if char == ']' then false
          else isBracketed) rest

def portLimit : Nat := 65535

/-- The number behind a host at the start of a text, and what follows it. The number that belongs to
the scheme is left out. -/
def splitPort (scheme : String) (text : List Char) : Except Fault (Option Nat × List Char) :=
  let digits := text.takeWhile Char.isDigit
  let rest := text.dropWhile Char.isDigit
  let number := Text.digitsValue digits
  if portLimit < number then .error .invalidPort
  else if rest.head?.any fun char => !endsAuthority .web char then .error .invalidPort
  else if digits.isEmpty || webPorts.lookup scheme == some number then .ok (none, rest)
  else .ok (some number, rest)

/-- The host at the start of a text. Only a URL that is no web address may lack it, and then it has
neither a user nor a number. -/
def hostOf (kind : Kind) (user : String) (text : List Char) : Except Fault String := do
  let name := hostText kind false text
  if name.isEmpty then
    if kind == .other && user.isEmpty && !(text.head? == some ':') then return ""
    else throw .emptyHost
  else if kind == .other then plainHost name
  else webHost name

def splitAuthority (scheme : String) (text : List Char) :
    Except Fault (Authority × List Char) := do
  let kind := Kind.ofScheme scheme
  let (user, text) ← splitUser kind text
  let host ← hostOf kind user text
  match text.drop (hostText kind false text).length with
  | ':' :: rest =>
      let (number, rest) ← splitPort scheme rest
      return (⟨user, host, number⟩, rest)
  | rest => return (⟨user, host, none⟩, rest)

/-! ## URLs of each kind -/

def withAuthority (scheme : String) (text : List Char) : Except Fault Url := do
  let (authority, rest) ← splitAuthority scheme text
  let path := rest.takeWhile fun char => !endsPath char
  let trail := trailBehindHost (Kind.ofScheme scheme) path
  return finish scheme (some authority) (.rooted trail.segments) (rest.drop path.length)

def withoutAuthority (scheme : String) (text : List Char) : Url :=
  let path := text.takeWhile fun char => !endsPath char
  let rest := text.drop path.length
  match path with
  | '/' :: segments => finish scheme none (.rooted (trailOf .other segments).segments) rest
  | _ => finish scheme none (.plain (Part.wholePath.encode path)) rest

/-- The URL of a file on a host, with what follows the host. The letter of a drive takes the host
away. -/
def fileOn (host : String) (text : List Char) : Url :=
  let path := text.takeWhile fun char => !endsPath char
  let trail := trailBehindHost .file path
  let host := if trail.startsWithDrive then "" else host
  finish "file" (some ⟨"", host, none⟩) (.rooted trail.segments) (text.drop path.length)

def fileUrl (text : List Char) : Except Fault Url :=
  match text with
  | first :: second :: rest =>
      if Kind.file.isSlash first && Kind.file.isSlash second then
        let name := rest.takeWhile fun char => !endsAuthority .file char
        if name.isEmpty || isDrive name then return fileOn "" rest
        else do
          let host ← webHost name
          return fileOn (if host == "localhost" then "" else host) (rest.drop name.length)
      else return fileOn "" text
  | _ => return fileOn "" text

def parse (text : String) : Except Fault Url :=
  match scheme? (essential text) with
  | none => .error .relative
  | some (scheme, rest) =>
      match Kind.ofScheme scheme with
      | .web => withAuthority scheme (rest.dropWhile Kind.web.isSlash)
      | .file => fileUrl rest
      | .other =>
          match rest with
          | '/' :: '/' :: rest => withAuthority scheme rest
          | _ => .ok (withoutAuthority scheme rest)

end GrantSurvey.Url
