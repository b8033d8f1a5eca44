import GrantSurvey.Text.Decimal
import GrantSurvey.Text.Hexadecimal
import GrantSurvey.Text.Split

/-!
# Numeric addresses

A host may be given by the number of its address instead of its name. An address of four bytes is
written as up to four numbers with points between them, each decimal, octal or hexadecimal, where
the last one fills all bytes that are left. An address of eight pieces is written with colons
between them; one gap may stand for pieces that are zero, and the last two pieces may be written as
four bytes.
-/

namespace GrantSurvey.Url

open Text (hexDigit?)

/-! ## Four bytes -/

def valueOf? (base : Nat) (digits : List Char) : Option Nat :=
  digits.foldlM (fun value char =>
    match hexDigit? char with
    | some digit => if digit < base then some (value * base + digit) else none
    | none => none) 0

def baseOf : List Char → Nat × List Char
  | '0' :: 'x' :: digits => (16, digits)
  | '0' :: 'X' :: digits => (16, digits)
  | '0' :: digit :: digits => (8, digit :: digits)
  | digits => (10, digits)

def addressPart? (text : List Char) : Option Nat :=
  if text.isEmpty then none
  else
    let (base, digits) := baseOf text
    valueOf? base digits

/-- The parts of an address; a point at its end counts for nothing. -/
def addressParts (text : List Char) : List (List Char) :=
  let parts := Text.split '.' text
  if parts.getLast?.any List.isEmpty then parts.dropLast else parts

/-- Does a host end like an address of four bytes? Then it has to be one. -/
def endsInNumber (text : List Char) : Bool :=
  match (addressParts text).getLast? with
  | some last => (!last.isEmpty && last.all Char.isDigit) || (addressPart? last).isSome
  | none => false

def addressOf? (numbers : List Nat) : Option Nat :=
  match numbers.reverse with
  | [] => none
  | last :: before =>
      if 3 < before.length || before.any (255 < ·) then none
      else if Nat.pow 256 (4 - before.length) ≤ last then none
      else
        some (before.reverse.foldr (fun number value => value / 256 + number * 16777216) 0 + last)

def fourBytes? (text : List Char) : Option Nat :=
  ((addressParts text).mapM addressPart?).bind addressOf?

def fourBytesText (address : Nat) : String :=
  s!"{address / 16777216 % 256}.{address / 65536 % 256}.{address / 256 % 256}.{address % 256}"

/-! ## Eight pieces -/

/-- The value of a piece: one to four hexadecimal digits. -/
def piece? (text : List Char) : Option Nat :=
  if text.isEmpty || 4 < text.length then none else valueOf? 16 text

/-- The value of a byte in decimal digits, without zeros before it. -/
def byte? (text : List Char) : Option Nat :=
  match text with
  | [] => none
  | ['0'] => some 0
  | '0' :: _ => none
  | _ =>
      if 3 < text.length || !text.all Char.isDigit then none
      else
        let value := Text.digitsValue text
        if value ≤ 255 then some value else none

def lastPieces? (text : List Char) : Option (List Nat) := do
  match ← (Text.split '.' text).mapM byte? with
  | [a, b, c, d] => some [a * 256 + b, c * 256 + d]
  | _ => none

/-- The pieces of a row of texts, of which only the last may be four bytes. -/
def pieces? : List (List Char) → Option (List Nat)
  | [] => some []
  | [last] => if last.contains '.' then lastPieces? last else (piece? last).map ([·])
  | text :: texts => do return (← piece? text) :: (← pieces? texts)

/-- The pieces of a row of texts before a gap, of which none may be four bytes. -/
def piecesBefore? (texts : List (List Char)) : Option (List Nat) :=
  texts.mapM piece?

/-- The texts between colons; a gap at either end is one empty text. -/
def pieceTexts? (text : List Char) : Option (List (List Char)) := do
  let headed ←
    match Text.split ':' text with
    | [] :: [] :: rest => some ([] :: rest)
    | [] :: _ => none
    | texts => some texts
  match headed.reverse with
  | [] :: [] :: rest => some ([] :: rest).reverse
  | [[]] => none
  | [] :: _ => none
  | _ => some headed

def eightPieces? (text : List Char) : Option (List Nat) := do
  let texts ← pieceTexts? text
  let before := texts.takeWhile fun piece => !piece.isEmpty
  match texts.drop before.length with
  | [] =>
      let pieces ← pieces? texts
      if pieces.length == 8 then some pieces else none
  | _ :: after =>
      let first ← piecesBefore? before
      let last ← pieces? after
      if first.length + last.length < 8 then
        some (first ++ List.replicate (8 - first.length - last.length) 0 ++ last)
      else none

/-- The lengths of the runs of zeros that start at each piece. -/
def zeroRuns : List Nat → List Nat
  | [] => []
  | piece :: pieces =>
      let runs := zeroRuns pieces
      (if piece == 0 then runs.headD 0 + 1 else 0) :: runs

def piecesText (pieces : List Nat) : String :=
  ":".intercalate (pieces.map fun piece => String.ofList (Nat.toDigits 16 piece))

/-- The text of an address of eight pieces: the first longest run of zeros is a gap, if it has two
pieces at least. -/
def eightPiecesText (pieces : List Nat) : String :=
  let runs := zeroRuns pieces
  let longest := runs.foldl max 0
  if longest < 2 then piecesText pieces
  else
    let start := runs.findIdx (· == longest)
    piecesText (pieces.take start) ++ "::" ++ piecesText (pieces.drop (start + longest))

end GrantSurvey.Url
