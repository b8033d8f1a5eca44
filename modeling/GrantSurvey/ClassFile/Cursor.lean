import GrantSurvey.ClassFile.Fault

/-!
# Reading bytes in order

A cursor stands between the bytes already read and the rest. A reader moves a cursor forward and
yields a value, or fails; a failing read of plain bytes leaves the cursor where it was. Numbers are
big-endian.
-/

namespace GrantSurvey

namespace BigEndian

def u2 (high low : UInt8) : UInt16 :=
  UInt16.ofNat (high.toNat * 256 + low.toNat)

def u4 (a b c d : UInt8) : UInt32 :=
  UInt32.ofNat (((a.toNat * 256 + b.toNat) * 256 + c.toNat) * 256 + d.toNat)

def u8 (high low : UInt32) : UInt64 :=
  UInt64.ofNat (high.toNat * 4294967296 + low.toNat)

def bytes2 (value : UInt16) : List UInt8 :=
  [UInt8.ofNat (value.toNat / 256), UInt8.ofNat value.toNat]

def bytes4 (value : UInt32) : List UInt8 :=
  [UInt8.ofNat (value.toNat / 16777216), UInt8.ofNat (value.toNat / 65536),
    UInt8.ofNat (value.toNat / 256), UInt8.ofNat value.toNat]

end BigEndian

namespace ClassFile

/-- A position in some bytes, with the bytes that follow it. -/
structure Cursor where
  position : Nat
  rest : List UInt8
  deriving DecidableEq, Repr

def Cursor.start (data : List UInt8) : Cursor :=
  ⟨0, data⟩

/-- A reader moves the cursor and yields a value, or fails and tells where the cursor was left. -/
abbrev Reader := EStateM Fault Cursor

namespace Reader

variable {α : Type}

def take (count : Nat) : Reader (List UInt8) := fun cursor =>
  let front := cursor.rest.take count
  if front.length = count then
    .ok front ⟨cursor.position + count, cursor.rest.drop count⟩
  else .error (.outOfBounds cursor.position) cursor

def skip (count : Nat) : Reader Unit := do
  let _ ← take count

def u1 : Reader UInt8 := fun cursor =>
  match cursor.rest with
  | a :: rest => .ok a ⟨cursor.position + 1, rest⟩
  | [] => .error (.outOfBounds cursor.position) cursor

def u2 : Reader UInt16 := fun cursor =>
  match cursor.rest with
  | a :: b :: rest => .ok (BigEndian.u2 a b) ⟨cursor.position + 2, rest⟩
  | _ => .error (.outOfBounds cursor.position) cursor

def u4 : Reader UInt32 := fun cursor =>
  match cursor.rest with
  | a :: b :: c :: d :: rest => .ok (BigEndian.u4 a b c d) ⟨cursor.position + 4, rest⟩
  | _ => .error (.outOfBounds cursor.position) cursor

def u8 : Reader UInt64 := do
  let high ← u4
  let low ← u4
  return BigEndian.u8 high low

def repeated (reader : Reader α) : Nat → Reader (List α)
  | 0 => pure []
  | count + 1 => do
      let first ← reader
      let others ← repeated reader count
      return first :: others

def counted (reader : Reader α) : Reader (List α) := do
  let count ← u2
  repeated reader count.toNat

def inPlace (place : Place) (reader : Reader α) : Reader α := fun cursor =>
  match reader cursor with
  | .ok value cursor => .ok value cursor
  | .error cause cursor => .error (.within place cause) cursor

/-- A value that needs no bytes, or the reason why there is none. -/
def lift (result : Except Fault α) : Reader α :=
  match result with
  | .ok value => pure value
  | .error cause => throw cause

/-- Runs a reader over its own bytes, from their first byte on. -/
def readAll (reader : Reader α) (data : List UInt8) : Except Fault α :=
  match reader (Cursor.start data) with
  | .ok value _ => .ok value
  | .error cause _ => .error cause

end Reader

end ClassFile

end GrantSurvey
