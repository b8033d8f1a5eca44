/-!
# Inflating

Members may be compressed as a sequence of blocks, each stored as it is or written with a pair of
prefix codes: one for literals and for the lengths of repetitions, one for their distances. Reading
goes bit by bit, lowest bit of a byte first. There is a plain form and a wide one, in which longer
repetitions may reach further back.
-/

namespace GrantSurvey.Zip

namespace Inflate

inductive Stop where
  | exhausted
  | corrupt
  deriving DecidableEq, Repr

/-- The bits that are left and the bytes written so far. -/
structure State where
  bits : List Bool
  output : Array UInt8
  deriving Repr

abbrev Inflater := EStateM Stop State

/-! ## Bits -/

def bitsOf (byte : UInt8) : List Bool :=
  (List.range 8).map fun place => byte.toNat.testBit place

def bit : Inflater Bool := do
  match (← get).bits with
  | [] => throw .exhausted
  | first :: bits =>
      modify fun state => { state with bits }
      return first

def number : (width : Nat) → Inflater Nat
  | 0 => return 0
  | width + 1 => do
      let low ← bit
      let high ← number width
      return 2 * high + low.toNat

def alignToByte : Inflater Unit :=
  modify fun state => { state with bits := state.bits.drop (state.bits.length % 8) }

def emit (byte : UInt8) : Inflater Unit :=
  modify fun state => { state with output := state.output.push byte }

/-! ## Prefix codes -/

/-- A prefix code as a tree of bits. A vacant end is no code word. -/
inductive Code where
  | vacant
  | symbol (value : Nat)
  | branch (zero one : Code)
  deriving Repr

namespace Code

def insert (value : Nat) : (path : List Bool) → Code → Code
  | [], _ => symbol value
  | false :: path, branch zero one => branch (insert value path zero) one
  | true :: path, branch zero one => branch zero (insert value path one)
  | false :: path, _ => branch (insert value path vacant) vacant
  | true :: path, _ => branch vacant (insert value path vacant)

/-- The code word of a length with a value, highest bit first. -/
def word (length value : Nat) : List Bool :=
  (List.range length).reverse.map value.testBit

/-- Gives the next code words to symbols that are listed by ascending length. -/
def assign (code : Code) (length next : Nat) : List (Nat × Nat) → Code
  | [] => code
  | (wordLength, value) :: symbols =>
      let value' := next * Nat.pow 2 (wordLength - length)
      assign (code.insert value (word wordLength value')) wordLength (value' + 1) symbols

/-- The canonical code in which each symbol has the length that stands at its index. A symbol of
length zero has no code word. -/
def ofLengths (lengths : List Nat) : Code :=
  let symbols := (lengths.zipIdx.filter fun (length, _) => length != 0).mergeSort
    fun first second => first.1 ≤ second.1
  assign (branch vacant vacant) 0 0 symbols

/-- The share of all words of fifteen bits that start with a code word. -/
def share (lengths : List Nat) : Nat :=
  (lengths.filter (· != 0)).foldl (fun share length => share + Nat.pow 2 (15 - length)) 0

/-- Do the lengths leave no word without a code and none with two? -/
def isComplete (lengths : List Nat) : Bool :=
  share lengths == Nat.pow 2 15

/-- Do the lengths describe at most one symbol, of a single bit? -/
def isDegenerate (lengths : List Nat) : Bool :=
  lengths.all (· ≤ 1) && (lengths.filter (· == 1)).length ≤ 1

def read : Code → Inflater Nat
  | vacant => throw .corrupt
  | symbol value => return value
  | branch zero one => do
      if ← bit then one.read else zero.read

end Code

/-- The code of lengths that are complete, or so few that nothing could complete them. -/
def checkedCode (lengths : List Nat) : Inflater Code :=
  if Code.isComplete lengths || Code.isDegenerate lengths then return Code.ofLengths lengths
  else throw .corrupt

/-! ## Repetitions -/

/-- How lengths and distances are written: the base and the number of further bits of each of their
symbols. In a forgiving form the bytes before the first one are zero, and codes of any number of
symbols are taken. -/
structure Form where
  lengths : List (Nat × Nat)
  distances : List (Nat × Nat)
  forgiving : Bool

/-- The base and the number of further bits of the symbols for all lengths but the last. -/
def lengthRanges : List (Nat × Nat) :=
  [(3, 0), (4, 0), (5, 0), (6, 0), (7, 0), (8, 0), (9, 0), (10, 0), (11, 1), (13, 1), (15, 1),
    (17, 1), (19, 2), (23, 2), (27, 2), (31, 2), (35, 3), (43, 3), (51, 3), (59, 3), (67, 4),
    (83, 4), (99, 4), (115, 4), (131, 5), (163, 5), (195, 5), (227, 5)]

/-- The base and the number of further bits of the symbols for distances. -/
def distanceRanges : List (Nat × Nat) :=
  [(1, 0), (2, 0), (3, 0), (4, 0), (5, 1), (7, 1), (9, 2), (13, 2), (17, 3), (25, 3), (33, 4),
    (49, 4), (65, 5), (97, 5), (129, 6), (193, 6), (257, 7), (385, 7), (513, 8), (769, 8),
    (1025, 9), (1537, 9), (2049, 10), (3073, 10), (4097, 11), (6145, 11), (8193, 12), (12289, 12),
    (16385, 13), (24577, 13)]

def plain : Form := ⟨lengthRanges ++ [(258, 0)], distanceRanges, false⟩

def wideForm : Form :=
  ⟨lengthRanges ++ [(3, 16)], distanceRanges ++ [(32769, 14), (49153, 14)], true⟩

def inRange (ranges : List (Nat × Nat)) (symbol : Nat) : Inflater Nat := do
  match ranges[symbol]? with
  | some (base, width) => return base + (← number width)
  | none => throw .corrupt

/-- Repeats what was written `distance` bytes ago, byte by byte. -/
def copy (distance : Nat) : (length : Nat) → Inflater Unit
  | 0 => return ()
  | length + 1 => do
      let output := (← get).output
      emit (if distance ≤ output.size then output.getD (output.size - distance) 0 else 0)
      copy distance length

/-- Repeats what was written `distance` bytes ago. A form that does not forgive reaches back no
further than the first byte. -/
def repetition (form : Form) (distance length : Nat) : Inflater Unit := do
  if !form.forgiving && (← get).output.size < distance then throw .corrupt
  copy distance length

/-- Reads symbols up to the end of a block. Every symbol takes at least one bit, so `fuel` that
counts the bits suffices. -/
def symbols (form : Form) (literals distances : Code) : (fuel : Nat) → Inflater Unit
  | 0 => throw .exhausted
  | fuel + 1 => do
      let value ← literals.read
      if value < 256 then
        emit (UInt8.ofNat value)
        symbols form literals distances fuel
      else if value == 256 then return ()
      else
        let length ← inRange form.lengths (value - 257)
        let distance ← inRange form.distances (← distances.read)
        repetition form distance length
        symbols form literals distances fuel

/-! ## Blocks -/

/-- Copies bytes of a stored block as far as there are any. -/
def stored : (count : Nat) → Inflater Unit
  | 0 => return ()
  | count + 1 => do
      emit (UInt8.ofNat (← number 8))
      stored count

def storedBlock : Inflater Unit := do
  alignToByte
  let count ← number 16
  let complement ← number 16
  if count + complement == 0xFFFF then stored count else throw .corrupt

def fixedLiterals : List Nat :=
  List.replicate 144 8 ++ List.replicate 112 9 ++ List.replicate 24 7 ++ List.replicate 8 8

def fixedDistances : List Nat := List.replicate 32 5

def lengthOrder : List Nat :=
  [16, 17, 18, 0, 8, 7, 9, 6, 10, 5, 11, 4, 12, 3, 13, 2, 14, 1, 15]

def shortNumbers : (count : Nat) → Inflater (List Nat)
  | 0 => return []
  | count + 1 => do
      let first ← number 3
      return first :: (← shortNumbers count)

/-- Reads code lengths until there are `total`, newest first. A run may not pass the end. -/
def codeLengths (code : Code) (total : Nat) : (fuel : Nat) → List Nat → Inflater (List Nat)
  | 0, lengths => return lengths
  | fuel + 1, lengths => do
      if lengths.length ≥ total then return lengths
      else
        let value ← code.read
        if value < 16 then codeLengths code total fuel (value :: lengths)
        else
          let repeated ←
            if value == 16 then
              match lengths with
              | newest :: _ => pure newest
              | [] => do
                  -- The count is read before it shows that there is no length to repeat.
                  let _ ← number 2
                  throw .corrupt
            else pure 0
          let count ←
            if value == 16 then (3 + ·) <$> number 2
            else if value == 17 then (3 + ·) <$> number 3
            else (11 + ·) <$> number 7
          if lengths.length + count > total then throw .corrupt
          else codeLengths code total fuel (List.replicate count repeated ++ lengths)

/-- Reads a block that brings its own codes. A code for code lengths without any symbol takes one
bit for each length before it is found out. -/
def ownBlock (form : Form) (fuel : Nat) : Inflater Unit := do
  let literalCount := 257 + (← number 5)
  let distanceCount := 1 + (← number 5)
  let lengthCount := 4 + (← number 4)
  if !form.forgiving && (literalCount > 286 || distanceCount > 30) then throw .corrupt
  let given := lengthOrder.zip (← shortNumbers lengthCount)
  let lengths := (List.range 19).map fun symbol => (given.lookup symbol).getD 0
  let total := literalCount + distanceCount
  if lengths.all (· == 0) then
    let _ ← number total
    throw .corrupt
  if !Code.isComplete lengths then throw .corrupt
  let all := (← codeLengths (Code.ofLengths lengths) total total []).reverse
  let literals := all.take literalCount
  if literals[256]? == some 0 then throw .corrupt
  let literalCode ← checkedCode literals
  let distanceCode ← checkedCode (all.drop literalCount)
  symbols form literalCode distanceCode fuel

def blocks (form : Form) (width : Nat) : (fuel : Nat) → Inflater Unit
  | 0 => throw .exhausted
  | fuel + 1 => do
      let last ← bit
      match ← number 2 with
      | 0 => storedBlock
      | 1 => symbols form (Code.ofLengths fixedLiterals) (Code.ofLengths fixedDistances) width
      | 2 => ownBlock form width
      | _ => throw .corrupt
      if last then return () else blocks form width fuel

/-- Reads data in a form: why reading stopped early, if it did, and what was written. -/
def run (form : Form) (data : List UInt8) : Option Stop × List UInt8 :=
  let bits := data.flatMap bitsOf
  match (blocks form bits.length bits.length).run ⟨bits, #[]⟩ with
  | .ok _ state => (none, state.output.toList)
  | .error stop state => (some stop, state.output.toList)

end Inflate

def inflate (data : List UInt8) : Except Inflate.Stop (List UInt8) :=
  match Inflate.run Inflate.plain data with
  | (none, bytes) => .ok bytes
  | (some stop, _) => .error stop

/-- The bytes that data in the wide form stands for, as far as it goes; nothing if it is corrupt. -/
def inflateWide (data : List UInt8) : Option (List UInt8) :=
  match Inflate.run Inflate.wideForm data with
  | (some .corrupt, _) => none
  | (_, bytes) => some bytes

end GrantSurvey.Zip
