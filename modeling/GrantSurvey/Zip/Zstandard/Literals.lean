import GrantSurvey.Zip.Bytes
import GrantSurvey.Zip.Inflate
import GrantSurvey.Zip.Zstandard.Entropy

/-!
# Literals

A block starts with its literals: stored, one byte repeated, or written with a prefix code. The code
is described by weights: one more than the difference between the longest code word and that of the
symbol, or zero for a symbol without one.
-/

namespace GrantSurvey.Zip.Zstandard

open Inflate (Code)

/-! ## Weights -/

/-- Reads symbols with two machines in turn until the bits are used up; both then give one more. -/
def inTurn (table : Table) : (fuel : Nat) → (own other : Nat) → Bits → List Nat → List Nat
  | 0, _, _, _, symbols => symbols
  | fuel + 1, own, other, bits, symbols =>
      let cell := table.cell own
      let symbols := cell.symbol :: symbols
      let (low, bits, missing) := bits.highOrZero cell.width
      if missing == 0 then inTurn table fuel other (cell.base + low) bits symbols
      else (table.cell other).symbol :: symbols

/-- The weights that are themselves written with an entropy code. -/
def codedWeights? (bytes : List UInt8) : Option (List Nat) := do
  let (frequencies, count) ← Frequencies.ofBytes? 6 255 bytes
  let table ← Table.ofFrequencies? frequencies
  let bits ← Bits.backward? (bytes.drop count)
  let (first, bits) ← bits.high? table.log
  let (second, bits) ← bits.high? table.log
  return (inTurn table (bits.length + 256) first second bits []).reverse

/-- The weights that are written as they are, two in a byte. -/
def plainWeights (count : Nat) (bytes : List UInt8) : List Nat :=
  (bytes.flatMap fun byte => [byte.toNat / 16, byte.toNat % 16]).take count

/-- Reads weights, all but the last one, and counts the bytes that they take. -/
def weights? (bytes : List UInt8) : Option (List Nat × Nat) := do
  match bytes with
  | [] => none
  | header :: bytes =>
      let header := header.toNat
      if header < 128 then
        if bytes.length < header then none
        return (← codedWeights? (bytes.take header), 1 + header)
      else
        let count := header - 127
        let size := (count + 1) / 2
        if bytes.length < size then none
        return (plainWeights count (bytes.take size), 1 + size)

/-! ## The code -/

def shareOf (weight : Nat) : Nat :=
  if weight == 0 then 0 else Nat.pow 2 (weight - 1)

/-- Gives code words to symbols that are listed by ascending weight. -/
def assignWeights (maxLength : Nat) (code : Code) (place : Nat) : List (Nat × Nat) → Code
  | [] => code
  | (weight, symbol) :: symbols =>
      let word := Code.word (maxLength + 1 - weight) (place / shareOf weight)
      assignWeights maxLength (code.insert symbol word) (place + shareOf weight) symbols

/-- The code of weights, of which the last one is left out: it fills what the others leave. -/
def codeOf? (weights : List Nat) : Option Code :=
  let share := (weights.map shareOf).foldl (· + ·) 0
  let maxLength := share.log2 + 1
  let left := Nat.pow 2 maxLength - share
  if share == 0 || 12 < maxLength || weights.any (12 < ·) || 255 < weights.length then none
  else if Nat.pow 2 left.log2 != left then none
  else
    let all := weights ++ [left.log2 + 1]
    let ones := (all.filter (· == 1)).length
    if ones < 2 || ones % 2 == 1 then none
    else
      let symbols := (all.zipIdx.filter fun (weight, _) => weight != 0).mergeSort
        fun first second => first.1 ≤ second.1
      some (assignWeights maxLength (.branch .vacant .vacant) 0 symbols)

def nextSymbol? : Code → Bits → Option (Nat × Bits)
  | .symbol value, bits => some (value, bits)
  | .branch _ one, true :: bits => nextSymbol? one bits
  | .branch zero _, false :: bits => nextSymbol? zero bits
  | _, _ => none

def symbolsOf? (code : Code) : (count : Nat) → Bits → Array UInt8 → Option (Array UInt8)
  | 0, bits, symbols => if bits.isEmpty then some symbols else none
  | count + 1, bits, symbols => do
      let (symbol, bits) ← nextSymbol? code bits
      symbolsOf? code count bits (symbols.push (UInt8.ofNat symbol))

def streamOf? (code : Code) (count : Nat) (bytes : List UInt8) : Option (List UInt8) := do
  return (← symbolsOf? code count (← Bits.backward? bytes) #[]).toList

/-- The symbols of four streams, which share them evenly up to the last one. -/
def fourStreams? (code : Code) (count : Nat) (bytes : List UInt8) : Option (List UInt8) := do
  if bytes.length < 10 then none
  let sizes := bytes.toArray
  let first := short sizes 0
  let second := short sizes 2
  let third := short sizes 4
  let rest := bytes.drop 6
  let share := (count + 3) / 4
  if rest.length < first + second + third || count < 3 * share then none
  let a ← streamOf? code share (rest.take first)
  let b ← streamOf? code share ((rest.drop first).take second)
  let c ← streamOf? code share ((rest.drop (first + second)).take third)
  let d ← streamOf? code (count - 3 * share) (rest.drop (first + second + third))
  return a ++ b ++ c ++ d

/-! ## The section -/

/-- The literals of a block, the code for the next block, and the bytes behind them. -/
structure Literals where
  bytes : List UInt8
  code : Option Code
  rest : List UInt8

namespace Literals

def plain? (code : Option Code) (repeated : Bool) (bytes : List UInt8) : Option Literals := do
  let header := littleEndian (bytes.take 3)
  let (size, headerSize) :=
    match header / 4 % 4 with
    | 1 => (header / 16 % 4096, 2)
    | 3 => (header / 16, 3)
    | _ => (header / 8 % 32, 1)
  if bytes.length < headerSize then none
  let rest := bytes.drop headerSize
  if repeated then
    let byte ← rest.head?
    return ⟨List.replicate size byte, code, rest.drop 1⟩
  else if rest.length < size then none
  else return ⟨rest.take size, code, rest.drop size⟩

/-- Reads a code from its weights; the rest is what it is used for. -/
def ownCode? (bytes : List UInt8) : Option (Code × List UInt8) := do
  let (weights, count) ← weights? bytes
  return (← codeOf? weights, bytes.drop count)

/-- Literals that are written with a code of their own, or with the one before. -/
def coded? (code : Option Code) (fresh : Bool) (bytes : List UInt8) : Option Literals := do
  let header := littleEndian (bytes.take 5)
  let form := header / 4 % 4
  let (width, headerSize) := match form with
    | 2 => (14, 4)
    | 3 => (18, 5)
    | _ => (10, 3)
  if bytes.length < headerSize then none
  let size := header / 16 % Nat.pow 2 width
  let codedSize := header / 16 / Nat.pow 2 width % Nat.pow 2 width
  let rest := bytes.drop headerSize
  if rest.length < codedSize then none
  let own := rest.take codedSize
  let (code, streams) ← if fresh then ownCode? own else code.map fun code => (code, own)
  let literals ←
    if form == 0 then streamOf? code size streams else fourStreams? code size streams
  return ⟨literals, some code, rest.drop codedSize⟩

def ofBytes? (code : Option Code) (bytes : List UInt8) : Option Literals := do
  match (← bytes.head?).toNat % 4 with
  | 0 => plain? code false bytes
  | 1 => plain? code true bytes
  | 2 => coded? code true bytes
  | _ => coded? code false bytes

end Literals

end GrantSurvey.Zip.Zstandard
