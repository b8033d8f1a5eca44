/-!
# Data in the bzip2 format

A stream is a row of blocks. The text of a block has its runs shortened, is sorted by what follows
each byte, has every byte replaced by how recently it was seen, and is written with several prefix
codes that take turns. Reading undoes these steps in turn; bits come highest first. Every block and
the whole stream carry a checksum.
-/

namespace GrantSurvey.Zip.Bzip2

inductive Fault where
  | noHeader
  | corrupt
  | exhausted
  deriving DecidableEq, Repr

def Fault.message : Fault → String
  | noHeader => "bzip2: bz2 header missing"
  | corrupt => "bzip2: invalid data"
  | exhausted => "decompression not finished but EOF reached"

/-! ## Bits -/

abbrev BitReader := EStateM Fault (List Bool)

def bitsOf (byte : UInt8) : List Bool :=
  (List.range 8).reverse.map byte.toNat.testBit

def bit : BitReader Bool := do
  match ← get with
  | [] => throw .exhausted
  | first :: bits =>
      set bits
      return first

/-- Reads `width` more bits of a number that starts with `high`. -/
def numberFrom (high : Nat) : (width : Nat) → BitReader Nat
  | 0 => return high
  | width + 1 => do
      let low ← bit
      numberFrom (2 * high + low.toNat) width

def number (width : Nat) : BitReader Nat :=
  numberFrom 0 width

/-- Reads bits as long as they are set, `limit` at most, and counts them. -/
def ones : (limit : Nat) → BitReader Nat
  | 0 => throw .corrupt
  | limit + 1 => do
      if ← bit then return 1 + (← ones limit) else return 0

/-! ## Checksums -/

def checksumStep (remainder : UInt32) (byte : UInt8) : UInt32 :=
  let shiftOut (remainder : UInt32) : UInt32 :=
    if remainder &&& 0x80000000 != 0 then (remainder <<< 1) ^^^ 0x04C11DB7 else remainder <<< 1
  Nat.repeat shiftOut 8 (remainder ^^^ (byte.toUInt32 <<< 24))

def checksum (bytes : Array UInt8) : UInt32 :=
  bytes.foldl checksumStep 0xFFFFFFFF ^^^ 0xFFFFFFFF

def combine (stream block : UInt32) : UInt32 :=
  ((stream <<< 1) ||| (stream >>> 31)) ^^^ block

/-! ## Prefix codes -/

def maxLength : Nat := 20

/-- A canonical code: for each length from the least one on, its number of code words, and the
symbols by ascending length. -/
structure Code where
  least : Nat
  counts : List Nat
  symbols : Array Nat
  deriving Repr

namespace Code

/-- The code in which each symbol has the length that stands at its index. -/
def ofLengths (lengths : List Nat) : Code :=
  let least := lengths.foldl min maxLength
  let lengthsUsed := (List.range (maxLength + 1)).drop least
  let symbolsOf (length : Nat) : List Nat :=
    lengths.zipIdx.filterMap fun (own, symbol) => if own == length then some symbol else none
  { least
    counts := lengthsUsed.map fun length => (symbolsOf length).length
    symbols := (lengthsUsed.flatMap symbolsOf).toArray }

/-- Reads on from a word. The code words of its length start with `first`, and `shorter` symbols
have shorter ones. -/
def readFrom (symbols : Array Nat) (word first shorter : Nat) :
    (counts : List Nat) → BitReader Nat
  | [] => throw .corrupt
  | count :: counts => do
      if word < first + count then return symbols.getD (shorter + (word - first)) 0
      else if counts.isEmpty then throw .corrupt
      else
        let low ← bit
        readFrom symbols (2 * word + low.toNat) (2 * (first + count)) (shorter + count) counts

def read (code : Code) : BitReader Nat := do
  readFrom code.symbols (← number code.least) 0 0 code.counts

end Code

/-- Changes a code length by steps up to the end mark. Lengths are from one to twenty. -/
def adjustedLength : (fuel length : Nat) → BitReader Nat
  | 0, _ => throw .exhausted
  | fuel + 1, length => do
      if length == 0 || maxLength < length then throw .corrupt
      else if ← bit then
        if ← bit then adjustedLength fuel (length - 1) else adjustedLength fuel (length + 1)
      else return length

/-- Reads the lengths of a code of `count` symbols; each starts from the one before it. -/
def codeLengths (fuel length : Nat) : (count : Nat) → BitReader (List Nat)
  | 0 => return []
  | count + 1 => do
      let length ← adjustedLength fuel length
      return length :: (← codeLengths fuel length count)

def ownCode (count : Nat) : BitReader Code := do
  let fuel := (← get).length + 1
  let first ← number 5
  return Code.ofLengths (← codeLengths fuel first count)

def codes (symbolCount : Nat) : (count : Nat) → BitReader (List Code)
  | 0 => return []
  | count + 1 => do
      let first ← ownCode symbolCount
      return first :: (← codes symbolCount count)

/-! ## Recency -/

/-- The entry at an index, and the list with that entry moved to the front. -/
def toFront {α : Type} (entries : List α) (index : Nat) : Option (α × List α) :=
  entries[index]?.map fun entry => (entry, entry :: entries.eraseIdx index)

/-- Reads which codes take turns: places in the list of codes, the most recent first. -/
def turns (codeCount : Nat) : (count : Nat) → (recent : List Nat) → BitReader (List Nat)
  | 0, _ => return []
  | count + 1, recent => do
      let place ← ones codeCount
      match toFront recent place with
      | none => throw .corrupt
      | some (turn, recent) => return turn :: (← turns codeCount count recent)

def turnLimit : Nat := 18002

/-! ## Text -/

/-- What is left to do while the text of a block is read: the turns of codes, how many symbols are
left of the current turn and its code, the bytes by recency, the text so far, and the run that is
being read: its length so far and the weight of its next digit. -/
structure Progress where
  turns : List Nat
  left : Nat
  code : Code
  recent : List UInt8
  text : Array UInt8
  run : Nat
  weight : Nat

def weightLimit : Nat := 2097152

/-- Reads a symbol with the code whose turn it is. A turn is fifty symbols. -/
def nextSymbol (codes : Array Code) (progress : Progress) : BitReader (Nat × Progress) := do
  match progress.left, progress.turns with
  | left + 1, _ => return (← progress.code.read, { progress with left })
  | 0, [] => throw .corrupt
  | 0, turn :: turns =>
      match codes[turn]? with
      | none => throw .corrupt
      | some code => return (← code.read, { progress with turns, left := 49, code })

def endRun (limit : Nat) (progress : Progress) : BitReader Progress := do
  if progress.run == 0 then return progress
  match progress.recent with
  | [] => throw .corrupt
  | byte :: _ =>
      if limit < progress.text.size + progress.run then throw .corrupt
      return { progress with
        text := progress.text ++ Array.replicate progress.run byte, run := 0, weight := 1 }

/-- Reads the text of a block up to its end mark, which is the last symbol. The first two symbols
are the digits of runs. Every symbol takes a bit at least, so `fuel` that counts bits suffices. -/
def text (codes : Array Code) (last limit : Nat) :
    (fuel : Nat) → Progress → BitReader (Array UInt8)
  | 0, _ => throw .exhausted
  | fuel + 1, progress => do
      let (symbol, progress) ← nextSymbol codes progress
      if symbol < 2 then
        if weightLimit ≤ progress.weight then throw .corrupt
        text codes last limit fuel { progress with
          run := progress.run + (symbol + 1) * progress.weight, weight := 2 * progress.weight }
      else
        let progress ← endRun limit progress
        if symbol == last then return progress.text
        else if limit ≤ progress.text.size then throw .corrupt
        else
          match toFront progress.recent (symbol - 1) with
          | none => throw .corrupt
          | some (byte, recent) =>
              text codes last limit fuel { progress with recent, text := progress.text.push byte }

/-! ## Sorting and runs -/

/-- For each place of a sorted text, the place from which its byte's successor is found. -/
def successors (text : Array UInt8) : Array Nat :=
  let counts := text.foldl (fun counts byte => counts.modify byte.toNat (· + 1))
    (Array.replicate 256 0)
  let starts := (counts.foldl (fun (starts, start) count => (starts.push start, start + count))
    (#[], 0)).1
  let step (state : Array Nat × Array Nat) (place : Nat) : Array Nat × Array Nat :=
    let byte := (text.getD place 0).toNat
    let target := state.2.getD byte 0
    (state.1.setIfInBounds target place, state.2.setIfInBounds byte (target + 1))
  ((List.range text.size).foldl step (Array.replicate text.size 0, starts)).1

def walk (text : Array UInt8) (next : Array Nat) :
    (steps place : Nat) → Array UInt8 → Array UInt8
  | 0, _, bytes => bytes
  | steps + 1, place, bytes =>
      walk text next steps (next.getD place 0) (bytes.push (text.getD place 0))

/-- The text before it was sorted, whose first byte follows the place `origin`. -/
def unsorted (text : Array UInt8) (origin : Nat) : List UInt8 :=
  let next := successors text
  (walk text next text.size (next.getD origin 0) #[]).toList

/-- Lengthens runs again: after four equal bytes stands the number of further ones. `seen` counts
the equal bytes before. -/
def lengthened (last : UInt8) (seen : Nat) : List UInt8 → Array UInt8 → Option (Array UInt8)
  | [], bytes => if seen == 4 then none else some bytes
  | byte :: rest, bytes =>
      if seen == 4 then lengthened 0 0 rest (bytes ++ Array.replicate byte.toNat last)
      else if byte == last && seen != 0 then lengthened byte (seen + 1) rest (bytes.push byte)
      else lengthened byte 1 rest (bytes.push byte)

/-! ## Blocks -/

/-- Reads which bytes are used: which of sixteen rows, and which bytes of each row. -/
def usedBytes : BitReader (List UInt8) := do
  let rows ← number 16
  let mut bytes := []
  for row in List.range 16 do
    if rows.testBit (15 - row) then
      let columns ← number 16
      let used := (List.range 16).filter fun column => columns.testBit (15 - column)
      bytes := bytes ++ used.map fun column => UInt8.ofNat (16 * row + column)
  return bytes

/-- Reads a block behind its mark: its text, if the checksum is right, and that checksum. -/
def block (level : Nat) : BitReader (Array UInt8 × UInt32) := do
  let stated ← number 32
  let _ ← bit
  let origin ← number 24
  let limit := 100000 * level
  if 10 + limit < origin then throw .corrupt
  let bytes ← usedBytes
  if bytes.isEmpty then throw .corrupt
  let symbolCount := bytes.length + 2
  let codeCount ← number 3
  if codeCount < 2 || 6 < codeCount then throw .corrupt
  let turnCount ← number 15
  if turnCount == 0 then throw .corrupt
  let turns ← turns codeCount turnCount (List.range codeCount)
  let codes := (← codes symbolCount codeCount).toArray
  let fuel := (← get).length + 1
  let text ← text codes (symbolCount - 1) limit fuel {
    turns := turns.take turnLimit
    left := 0
    code := ⟨0, [], #[]⟩
    recent := bytes
    text := #[]
    run := 0
    weight := 1 }
  if text.size ≤ origin then throw .corrupt
  match lengthened 0 0 (unsorted text origin) #[] with
  | none => throw .corrupt
  | some bytes =>
      if (checksum bytes).toNat != stated then throw .corrupt
      return (bytes, checksum bytes)

def mark (fault : Fault) : List Nat → BitReader Unit
  | [] => return ()
  | byte :: bytes => do
      if (← number 8) != byte then throw fault
      mark fault bytes

def blocks (level : Nat) : (fuel : Nat) → Array UInt8 → UInt32 → BitReader (Array UInt8)
  | 0, _, _ => throw .exhausted
  | fuel + 1, bytes, sum => do
      match ← number 8 with
      | 0x17 =>
          mark .corrupt [0x72, 0x45, 0x38, 0x50, 0x90]
          if (← number 32) != sum.toNat then throw .corrupt
          return bytes
      | 0x31 =>
          mark .corrupt [0x41, 0x59, 0x26, 0x53, 0x59]
          let (more, blockSum) ← block level
          blocks level fuel (bytes ++ more) (combine sum blockSum)
      | _ => throw .corrupt

def stream : BitReader (Array UInt8) := do
  mark .noHeader [0x42, 0x5A, 0x68]
  let level ← number 8
  if level < 0x31 || 0x39 < level then throw .noHeader
  let fuel := (← get).length + 1
  blocks (level - 0x30) fuel #[] 0

/-- The bytes that a stream stands for. What follows the stream does not matter. -/
def decode (data : List UInt8) : Except Fault (List UInt8) :=
  match stream.run (data.flatMap bitsOf) with
  | .ok bytes _ => .ok bytes.toList
  | .error fault _ => .error fault

end GrantSurvey.Zip.Bzip2
