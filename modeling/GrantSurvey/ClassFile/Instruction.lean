/-!
# Instructions

A method body as far as recovering literal arguments needs it: what each instruction does to the
operand stack, where it stands, and whether control may arrive there other than from the
instruction before it.
-/

namespace GrantSurvey.ClassFile

inductive Literal where
  | text (value : String)
  | int (value : Int32)
  | long (value : Int64)
  deriving DecidableEq, Repr

/-- The literal as it is written into a text: the text itself, or the number in decimal. -/
def Literal.render : Literal → String
  | text value => value
  | int value => toString value.toInt
  | long value => toString value.toInt

inductive CallKind where
  | virtual
  | interface
  | special
  | static
  deriving DecidableEq, Repr

structure MethodSymbol where
  owner : String
  name : String
  descriptor : String
  deriving DecidableEq, Repr

/-- What an instruction does to the operand stack. A `push` leaves one value of unknown content; an
`other` may do anything. -/
inductive Effect where
  | constant (value : Literal)
  | push (opcode : UInt8)
  | invoke (kind : CallKind) (callee : MethodSymbol)
  | other (opcode : UInt8)
  deriving DecidableEq, Repr

/-- An instruction at its offset in the method body. -/
structure Instruction where
  offset : Nat
  effect : Effect
  jumpTarget : Bool
  deriving DecidableEq, Repr

/-- From offset `start` on, the body stems from source line `line`. -/
structure LineNumber where
  start : Nat
  line : Nat
  deriving DecidableEq, Repr

/-- A method with a body. Its line table is sorted by offset. -/
structure Method where
  name : String
  descriptor : String
  instructions : List Instruction
  lines : List LineNumber
  deriving DecidableEq, Repr

end GrantSurvey.ClassFile

namespace GrantSurvey

/-- A class with those of its methods that have a body, in file order. -/
structure ClassFile where
  name : String
  methods : List ClassFile.Method
  deriving DecidableEq, Repr

namespace ClassFile

/-- Sorts line entries by offset; entries of one offset keep their order. -/
def sortLines (lines : List LineNumber) : List LineNumber :=
  lines.mergeSort fun first second => decide (first.start ≤ second.start)

def passesAt {α : Type} (passes : α → Bool) (list : List α) (index : Nat) : Bool :=
  list[index]?.any passes

/-- Halves the stretch of `size` elements from `base` on until one is left. Of the two halves the
later one is kept if its first element passes the test. -/
def narrow {α : Type} (passes : α → Bool) (list : List α) (base size : Nat) : Nat :=
  if 1 < size then
    let middle := base + size / 2
    narrow passes list (if passesAt passes list middle then middle else base) (size - size / 2)
  else base
  termination_by size
  decreasing_by omega

/-- How many elements pass a test, for a list in which those that pass come first. -/
def partitionPoint {α : Type} (passes : α → Bool) : List α → Nat
  | [] => 0
  | list =>
      let last := narrow passes list 0 list.length
      if passesAt passes list last then last + 1 else last

/-- The line of the last entry of a table that starts at or before an offset, for a table sorted by
offset. -/
def lineAt (lines : List LineNumber) (offset : Nat) : Option Nat :=
  match partitionPoint (fun entry => decide (entry.start ≤ offset)) lines with
  | 0 => none
  | last + 1 => lines[last]?.map (·.line)

def Method.lineAt (method : Method) (offset : Nat) : Option Nat :=
  ClassFile.lineAt method.lines offset

end ClassFile

end GrantSurvey
