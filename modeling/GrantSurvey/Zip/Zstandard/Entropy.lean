/-!
# Entropy codes

Symbols are written by a machine that goes from state to state: a state stands for a symbol, and the
next bits choose the state after it. A table of states is described by how often each symbol occurs.
Descriptions are read from their first bit on, lowest first; the symbols themselves are read from
the last bit back.
-/

namespace GrantSurvey.Zip.Zstandard

abbrev Bits := List Bool

namespace Bits

/-- The bits of some bytes from the first one on, lowest first. -/
def forward (bytes : List UInt8) : Bits :=
  bytes.flatMap fun byte => (List.range 8).map byte.toNat.testBit

/-- The bits of some bytes from the last one back, highest first. A set bit marks their start. -/
def backward? (bytes : List UInt8) : Option Bits :=
  match bytes.reverse with
  | [] => none
  | last :: _ =>
      if last == 0 then none
      else
        let bits := bytes.reverse.flatMap fun byte => (List.range 8).reverse.map byte.toNat.testBit
        some ((bits.dropWhile (!·)).drop 1)

/-- The number of some bits, lowest first, and the bits behind them. -/
def low? (count : Nat) (bits : Bits) : Option (Nat × Bits) :=
  if bits.length < count then none
  else
    let value := (bits.take count).foldr (fun bit value => bit.toNat + 2 * value) 0
    some (value, bits.drop count)

/-- The number of some bits, highest first, and the bits behind them. -/
def high? (count : Nat) (bits : Bits) : Option (Nat × Bits) :=
  let first := bits.take count
  if first.length < count then none
  else some (first.foldl (fun value bit => 2 * value + bit.toNat) 0, bits.drop count)

/-- The number of some bits, highest first, with zeros for those that are missing; and how many are
missing. -/
def highOrZero (count : Nat) (bits : Bits) : Nat × Bits × Nat :=
  let first := bits.take count
  let missing := count - first.length
  let value := first.foldl (fun value bit => 2 * value + bit.toNat) 0
  (value * Nat.pow 2 missing, bits.drop count, missing)

end Bits

/-! ## Descriptions -/

/-- How often each symbol occurs among all states. A rare symbol has one state of its own. -/
structure Frequencies where
  log : Nat
  counts : List Int
  deriving Repr

namespace Frequencies

/-- Reads the lengths of runs of absent symbols, newest first in the result. -/
def absent : (fuel : Nat) → List Int → Bits → Option (List Int × Bits)
  | 0, _, _ => none
  | fuel + 1, counts, bits => do
      let (run, bits) ← bits.low? 2
      let counts := List.replicate run 0 ++ counts
      if run == 3 then absent fuel counts bits else return (counts, bits)

/-- Reads counts, newest first in the result, until no states are left. A value takes one bit less
if it is small. -/
def read : (fuel left : Nat) → List Int → Bits → Option (List Int × Bits)
  | 0, left, counts, bits => if left == 0 then some (counts, bits) else none
  | fuel + 1, left, counts, bits => do
      if left == 0 then return (counts, bits)
      -- There are fewer values than numbers of `width` bits; those left over shorten small ones.
      let width := (left + 1).log2 + 1
      let half := Nat.pow 2 (width - 1)
      let threshold := 2 * half - 1 - (left + 1)
      let (small, rest) ← bits.low? (width - 1)
      let (value, bits) ←
        if small < threshold then some (small, rest)
        else (rest.low? 1).map fun (top, rest) =>
          (if top == 1 then half + small - threshold else small, rest)
      -- A rare symbol has the count -1 and takes one state.
      if value == 0 then read fuel (left - 1) (-1 :: counts) bits
      else if left < value - 1 then none
      else if value == 1 then
        let (counts, bits) ← absent (bits.length + 1) (0 :: counts) bits
        read fuel left counts bits
      else read fuel (left - (value - 1)) (((value : Int) - 1) :: counts) bits

/-- Reads a description with bounds on its size and its symbols; counts the bytes that it takes. -/
def ofBytes? (maxLog maxSymbol : Nat) (bytes : List UInt8) : Option (Frequencies × Nat) := do
  let bits := Bits.forward bytes
  let (low, rest) ← bits.low? 4
  let log := low + 5
  if maxLog < log then none
  let (counts, rest) ← read 256 (Nat.pow 2 log) [] rest
  if maxSymbol + 1 < counts.length then none
  return (⟨log, counts.reverse⟩, (bits.length - rest.length + 7) / 8)

end Frequencies

/-! ## Tables -/

/-- What a state stands for: its symbol, and the least of the states after it, with the number of
bits that choose among them. -/
structure Cell where
  symbol : Nat
  width : Nat
  base : Nat
  deriving Inhabited, Repr

structure Table where
  log : Nat
  cells : Array Cell
  deriving Repr

namespace Table

def single (symbol : Nat) : Table := ⟨0, #[⟨symbol, 0, 0⟩]⟩

/-- The next place of a symbol's states that is not kept for rare symbols. -/
def nextPlace (size free step : Nat) : (fuel place : Nat) → Nat
  | 0, place => place
  | fuel + 1, place =>
      let place := (place + step) % size
      if place < free then place else nextPlace size free step fuel place

/-- Gives a symbol its states, and tells where the next symbol starts. -/
def spread (size free step symbol : Nat) :
    (count place : Nat) → Array Nat → Array Nat × Nat
  | 0, place, symbols => (symbols, place)
  | count + 1, place, symbols =>
      spread size free step symbol count (nextPlace size free step size place)
        (symbols.setIfInBounds place symbol)

/-- The symbol of each state: rare ones at the end, the others spread evenly. -/
def symbols (frequencies : Frequencies) : Array Nat × Nat :=
  let size := Nat.pow 2 frequencies.log
  let counted := frequencies.counts.zipIdx
  let rare := (counted.filter fun (count, _) => count == -1).map (·.2)
  let free := size - rare.length
  let step := size / 2 + size / 8 + 3
  let start := rare.zipIdx.foldl
    (fun symbols (symbol, index) => symbols.setIfInBounds (size - 1 - index) symbol)
    (Array.replicate size 0)
  counted.foldl
    (fun (symbols, place) (count, symbol) =>
      spread size free step symbol count.toNat place symbols)
    (start, 0)

/-- The cells of states with known symbols. Those of a symbol are numbered on from its count. -/
def cellsOf (frequencies : Frequencies) (symbols : Array Nat) : Array Cell :=
  let size := Nat.pow 2 frequencies.log
  let numbers := (frequencies.counts.map Int.natAbs).toArray
  (symbols.foldl
    (fun (cells, numbers) symbol =>
      let number := numbers.getD symbol 0
      let width := frequencies.log - number.log2
      (cells.push ⟨symbol, width, number * Nat.pow 2 width - size⟩,
        numbers.setIfInBounds symbol (number + 1)))
    (#[], numbers)).1

def ofFrequencies? (frequencies : Frequencies) : Option Table :=
  let (symbols, place) := symbols frequencies
  if place == 0 then some ⟨frequencies.log, cellsOf frequencies symbols⟩ else none

def cell (table : Table) (state : Nat) : Cell :=
  table.cells.getD state default

end Table

end GrantSurvey.Zip.Zstandard
