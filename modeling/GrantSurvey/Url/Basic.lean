import GrantSurvey.Url.Path

/-!
# URLs

An absolute URL has a scheme, mostly a host, with a user before it and a number behind it, a path,
and a query and a fragment that may be missing. All parts are kept as they are written.
-/

namespace GrantSurvey

/-- What stands between two slashes and the path of a URL. -/
structure Url.Authority where
  user : String
  host : String
  portNumber : Option Nat
  deriving DecidableEq, Repr

/-- An absolute URL. A path without an authority is guarded if it would be taken for one. -/
structure Url where
  scheme : String
  authority : Option Url.Authority
  isGuarded : Bool
  path : Url.Path
  query : Option String
  fragment : Option String
  deriving DecidableEq, Repr

namespace Url

def Authority.text (authority : Authority) : String :=
  let user := if authority.user.isEmpty then "" else authority.user ++ "@"
  let number :=
    match authority.portNumber with
    | some value => s!":{value}"
    | none => ""
  user ++ authority.host ++ number

def marked (mark : String) : Option String → String
  | some text => mark ++ text
  | none => ""

def text (url : Url) : String :=
  let authority := marked "//" (url.authority.map Authority.text)
  let guard := if url.isGuarded then "/." else ""
  url.scheme ++ ":" ++ authority ++ guard ++ url.path.text ++ marked "?" url.query
    ++ marked "#" url.fragment

def webPorts : List (String × Nat) :=
  [("http", 80), ("https", 443), ("ws", 80), ("wss", 443), ("ftp", 21)]

def Kind.ofScheme (scheme : String) : Kind :=
  if scheme == "file" then .file
  else if (webPorts.lookup scheme).isSome then .web
  else .other

/-- The URL with another path. A slash at the start of a plain path is written as a byte. -/
def withPath (url : Url) (text : String) : Url :=
  match url.path with
  | .plain _ =>
      let path :=
        match text.toList with
        | '/' :: rest => "%2F" ++ Part.wholePath.encode rest
        | chars => Part.wholePath.encode chars
      { url with path := .plain path }
  | .rooted _ =>
      let trail := trailBehindHost (Kind.ofScheme url.scheme) text.toList
      { url with path := .rooted trail.segments }

end Url

end GrantSurvey
