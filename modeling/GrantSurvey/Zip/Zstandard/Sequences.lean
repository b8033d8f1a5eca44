import GrantSurvey.Zip.Zstandard.Literals

/-!
# Sequences

Behind its literals a block has sequences: so many literals, then a repetition with a distance and a
length. The three numbers of a sequence are each written with an entropy code for their size class
and with further bits. What the sequences leave of the literals ends the block.
-/

namespace GrantSurvey.Zip.Zstandard

/-- A kind of number in sequences: its usual frequencies, the bound of a description of its own, and
the base and the number of further bits of each size class. -/
structure Kind where
  usual : Frequencies
  maxLog : Nat
  ranges : Array (Nat × Nat)

namespace Kind

def exact (first count : Nat) : List (Nat × Nat) :=
  (List.range count).map fun index => (first + index, 0)

def literals : Kind where
  usual := ⟨6, [4, 3, 2, 2, 2, 2, 2, 2, 2, 2, 2, 2, 2, 1, 1, 1, 2, 2, 2, 2, 2, 2, 2, 2, 2, 3, 2, 1,
    1, 1, 1, 1, -1, -1, -1, -1]⟩
  maxLog := 9
  ranges := (exact 0 16 ++ [(16, 1), (18, 1), (20, 1), (22, 1), (24, 2), (28, 2), (32, 3), (40, 3),
    (48, 4), (64, 6), (128, 7), (256, 8), (512, 9), (1024, 10), (2048, 11), (4096, 12), (8192, 13),
    (16384, 14), (32768, 15), (65536, 16)]).toArray

def lengths : Kind where
  usual := ⟨6, [1, 4, 3, 2, 2, 2, 2, 2, 2] ++ List.replicate 37 1 ++ List.replicate 7 (-1)⟩
  maxLog := 9
  ranges := (exact 3 32 ++ [(35, 1), (37, 1), (39, 1), (41, 1), (43, 2), (47, 2), (51, 3), (59, 3),
    (67, 4), (83, 4), (99, 5), (131, 7), (259, 8), (515, 9), (1027, 10), (2051, 11), (4099, 12),
    (8195, 13), (16387, 14), (32771, 15), (65539, 16)]).toArray

def distances : Kind where
  usual := ⟨5, [1, 1, 1, 1, 1, 1, 2, 2, 2] ++ List.replicate 15 1 ++ List.replicate 5 (-1)⟩
  maxLog := 8
  ranges := ((List.range 32).map fun index => (Nat.pow 2 index, index)).toArray

/-- Reads the table for a kind of number: the usual one, that of one symbol, one that is described,
or the one before. -/
def table? (kind : Kind) (mode : Nat) (before : Option Table) (bytes : List UInt8) :
    Option (Table × List UInt8) := do
  match mode with
  | 0 => return (← Table.ofFrequencies? kind.usual, bytes)
  | 1 =>
      let symbol ← bytes.head?
      if kind.ranges.size ≤ symbol.toNat then none
      return (Table.single symbol.toNat, bytes.drop 1)
  | 2 =>
      let (frequencies, count) ← Frequencies.ofBytes? kind.maxLog (kind.ranges.size - 1) bytes
      return (← Table.ofFrequencies? frequencies, bytes.drop count)
  | _ => return (← before, bytes)

end Kind

structure Tables where
  literals : Table
  distances : Table
  lengths : Table

structure Machines where
  literals : Nat
  distances : Nat
  lengths : Nat

/-- A sequence: a number of literals, the stated distance and the length of a repetition. -/
structure Sequence where
  literals : Nat
  distance : Nat
  length : Nat
  deriving Repr

/-- Reads the further bits of a number whose size class a state stands for. -/
def number? (kind : Kind) (table : Table) (state : Nat) (bits : Bits) : Option (Nat × Bits) := do
  let (base, width) ← kind.ranges[(table.cell state).symbol]?
  let (low, bits) ← bits.high? width
  return (base + low, bits)

def advance? (table : Table) (state : Nat) (bits : Bits) : Option (Nat × Bits) := do
  let cell := table.cell state
  let (low, bits) ← bits.high? cell.width
  return (cell.base + low, bits)

def sequencesOf? (tables : Tables) :
    (count : Nat) → Machines → Bits → Array Sequence → Option (Array Sequence)
  | 0, _, bits, sequences => if bits.isEmpty then some sequences else none
  | count + 1, machines, bits, sequences => do
      let (distance, bits) ← number? .distances tables.distances machines.distances bits
      let (length, bits) ← number? .lengths tables.lengths machines.lengths bits
      let (literals, bits) ← number? .literals tables.literals machines.literals bits
      let sequences := sequences.push ⟨literals, distance, length⟩
      if count == 0 then sequencesOf? tables count machines bits sequences
      else
        let (nextLiterals, bits) ← advance? tables.literals machines.literals bits
        let (nextLength, bits) ← advance? tables.lengths machines.lengths bits
        let (nextDistance, bits) ← advance? tables.distances machines.distances bits
        sequencesOf? tables count ⟨nextLiterals, nextDistance, nextLength⟩ bits sequences

/-- Reads how many sequences there are; the rest is behind that. -/
def sequenceCount? : List UInt8 → Option (Nat × List UInt8)
  | [] => none
  | first :: rest =>
      let first := first.toNat
      if first < 128 then some (first, rest)
      else
        match rest with
        | [] => none
        | second :: rest =>
            if first < 255 then some ((first - 128) * 256 + second.toNat, rest)
            else rest.head?.map fun third =>
              (second.toNat + 256 * third.toNat + 0x7F00, rest.drop 1)

/-- Reads the sequences of a block; none end the block at once. -/
def sequences? (before : Option Tables) (bytes : List UInt8) :
    Option (Array Sequence × Option Tables) := do
  let (count, bytes) ← sequenceCount? bytes
  if count == 0 then
    if bytes.isEmpty then return (#[], before) else none
  else
    let modes := (← bytes.head?).toNat
    if modes % 4 != 0 then none
    let (literals, bytes) ←
      Kind.literals.table? (modes / 64) (before.map (·.literals)) (bytes.drop 1)
    let (distances, bytes) ← Kind.distances.table? (modes / 16 % 4) (before.map (·.distances)) bytes
    let (lengths, bytes) ← Kind.lengths.table? (modes / 4 % 4) (before.map (·.lengths)) bytes
    let tables : Tables := ⟨literals, distances, lengths⟩
    let bits ← Bits.backward? bytes
    let (firstLiterals, bits) ← bits.high? literals.log
    let (firstDistance, bits) ← bits.high? distances.log
    let (firstLength, bits) ← bits.high? lengths.log
    let machines : Machines := ⟨firstLiterals, firstDistance, firstLength⟩
    return (← sequencesOf? tables count machines bits #[], some tables)

/-! ## Carrying out -/

structure Recent where
  first : Nat
  second : Nat
  third : Nat
  deriving Repr

/-- The real distance of a sequence, and the recent ones after it. A small stated distance refers to
a recent one; after no literals it refers to an older one. -/
def Recent.take (recent : Recent) (sequence : Sequence) : Nat × Recent :=
  if 3 < sequence.distance then
    let distance := sequence.distance - 3
    (distance, ⟨distance, recent.first, recent.second⟩)
  else
    match sequence.distance + (if sequence.literals == 0 then 1 else 0) with
    | 1 => (recent.first, recent)
    | 2 => (recent.second, ⟨recent.second, recent.first, recent.third⟩)
    | 3 => (recent.third, ⟨recent.third, recent.first, recent.second⟩)
    | _ => (recent.first - 1, ⟨recent.first - 1, recent.first, recent.second⟩)

/-- Repeats what was written `distance` bytes ago, byte by byte. -/
def copy (distance : Nat) : (length : Nat) → Array UInt8 → Array UInt8
  | 0, output => output
  | length + 1, output =>
      copy distance length (output.push (output.getD (output.size - distance) 0))

def carryOut? : List Sequence → Recent → List UInt8 → Array UInt8 → Option (Array UInt8 × Recent)
  | [], recent, literals, output => some (output ++ literals.toArray, recent)
  | sequence :: sequences, recent, literals, output =>
      if literals.length < sequence.literals then none
      else
        let output := output ++ (literals.take sequence.literals).toArray
        let (distance, recent) := recent.take sequence
        if distance == 0 || output.size < distance then none
        else
          carryOut? sequences recent (literals.drop sequence.literals)
            (copy distance sequence.length output)

end GrantSurvey.Zip.Zstandard
