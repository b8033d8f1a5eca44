import GrantSurvey.Url.Percent

/-!
# Paths

A path that starts with a slash is a row of segments. Those of one point are dropped, and those of
two points drop the segment before them; a point may also be written as a byte. The letter of a
drive is never dropped. In a path of the file scheme it comes first with a colon, without a host.
Any other path is a text that is taken as it is.
-/

namespace GrantSurvey.Url

/-- How the parts behind the scheme are read: a web address, a file, or anything else. -/
inductive Kind where
  | web
  | file
  | other
  deriving DecidableEq, Repr

def Kind.isSlash (kind : Kind) (char : Char) : Bool :=
  char == '/' || (char == '\\' && kind != .other)

inductive Path where
  | rooted (segments : List String)
  | plain (text : String)
  deriving DecidableEq, Repr

def Path.text : Path → String
  | rooted segments => String.join (segments.map ("/" ++ ·))
  | plain text => text

/-! ## Segments -/

def onePoint : List String := [".", "%2e"]

def twoPoints : List String := ["..", ".%2e", "%2e.", "%2e%2e"]

def isOneOf (texts : List String) (segment : String) : Bool :=
  texts.contains (String.ofList (segment.toList.map Char.toLower))

/-- Is a text the letter of a drive, with a colon or a bar? -/
def isDrive (text : List Char) : Bool :=
  match text with
  | [letter, mark] => letter.isAlpha && (mark == ':' || mark == '|')
  | _ => false

/-- Drops the last of some reversed segments, unless it is a drive. -/
def dropLastSegment : List String → List String
  | [] => []
  | last :: before => if isDrive last.toList then last :: before else before

/-- The segments so far, reversed, and whether the first one is a drive. -/
structure Trail where
  segments : List String
  startsWithDrive : Bool

def Trail.add (kind : Kind) (trail : Trail) (text : List Char) : Trail :=
  let segment := Part.segment.encode text
  if isOneOf twoPoints segment then { trail with segments := dropLastSegment trail.segments }
  else if isOneOf onePoint segment then trail
  else if kind == .file && trail.segments.isEmpty && isDrive segment.toList then
    ⟨[String.ofList (segment.toList.take 1 ++ [':'])], true⟩
  else { trail with segments := segment :: trail.segments }

def splitSegments (kind : Kind) : List Char → List (List Char)
  | [] => [[]]
  | char :: rest =>
      if kind.isSlash char then [] :: splitSegments kind rest
      else
        match splitSegments kind rest with
        | [] => [[char]]
        | segment :: segments => (char :: segment) :: segments

/-- Does a text end in a segment of points, which leaves an empty one? -/
def endsInPoints (texts : List (List Char)) : Bool :=
  match texts.getLast? with
  | some last =>
      isOneOf twoPoints (Part.segment.encode last) || isOneOf onePoint (Part.segment.encode last)
  | none => false

/-- Segments without the empty ones at the start, except for the last of all. -/
def dropEmpty : List String → List String
  | first :: second :: rest =>
      if first.isEmpty then dropEmpty (second :: rest) else first :: second :: rest
  | segments => segments

def trailOf (kind : Kind) (text : List Char) : Trail :=
  let texts := splitSegments kind text
  let trail := texts.foldl (Trail.add kind) ⟨[], false⟩
  let segments := trail.segments.reverse ++ (if endsInPoints texts then [""] else [])
  ⟨if kind == .file then dropEmpty segments else segments, trail.startsWithDrive⟩

/-- A path behind a host, which need not start with a slash. A path that is missing is the root,
but for a URL that is neither a web address nor a file. -/
def trailBehindHost (kind : Kind) (text : List Char) : Trail :=
  match text with
  | [] => if kind == .other then ⟨[], false⟩ else trailOf kind []
  | first :: rest => trailOf kind (if kind.isSlash first then rest else text)

end GrantSurvey.Url
