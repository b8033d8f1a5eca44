import GrantSurvey.ClassFile.Instruction
import GrantSurvey.Descriptor

/-!
# Calls and their literal arguments

The calls of a method in code order, each with its source line and with those arguments that are
certainly literals. An argument is recovered by walking back from the call over instructions that
push one value each: the nearest pushed the last argument. The walk ends at any other instruction,
and it never crosses a place at which control may arrive from elsewhere.
-/

namespace GrantSurvey

open ClassFile

structure Call where
  callee : MethodSymbol
  kind : CallKind
  offset : Nat
  line : Option Nat
  arguments : List (Option Literal)
  deriving DecidableEq, Repr

namespace Call

/-- The values of the `count` topmost stack slots, topmost first, as far as they are literals.
`arrival` tells whether control may arrive between the slots' use and the `preceding` instructions,
which are listed nearest first. -/
def topmost : (count : Nat) → (arrival : Bool) → (preceding : List Instruction) →
    List (Option Literal)
  | 0, _, _ => []
  | count + 1, false, instruction :: preceding =>
      match instruction.effect with
      | .constant value => some value :: topmost count instruction.jumpTarget preceding
      | .push _ => none :: topmost count instruction.jumpTarget preceding
      | .invoke _ _ | .other _ => List.replicate (count + 1) none
  | count + 1, _, _ => List.replicate (count + 1) none

/-- The arguments of the call at `invoke`, first to last, as far as they are literals. A descriptor
that cannot be read gives no arguments at all. -/
def literalArguments (preceding : List Instruction) (invoke : Instruction) (descriptor : String) :
    List (Option Literal) :=
  match Descriptor.parameterCount descriptor with
  | .ok count => (topmost count invoke.jumpTarget preceding).reverse
  | .error _ => []

end Call

/-- A walk over the calls of a method: the instructions already passed, nearest first, and those
ahead. -/
structure CallWalk where
  lines : List LineNumber
  passed : List Instruction
  ahead : List Instruction
  deriving DecidableEq, Repr

namespace CallWalk

def start (method : Method) : CallWalk :=
  ⟨method.lines, [], method.instructions⟩

/-- The call that an instruction makes after the `passed` ones, if it makes one. -/
def callAt? (lines : List LineNumber) (passed : List Instruction) (instruction : Instruction) :
    Option Call :=
  match instruction.effect with
  | .invoke kind callee =>
      some {
        callee, kind
        offset := instruction.offset
        line := lineAt lines instruction.offset
        arguments := Call.literalArguments passed instruction callee.descriptor }
  | _ => none

def nextFrom (lines : List LineNumber) :
    (passed ahead : List Instruction) → Option Call × CallWalk
  | passed, [] => (none, ⟨lines, passed, []⟩)
  | passed, instruction :: ahead =>
      match callAt? lines passed instruction with
      | some call => (some call, ⟨lines, instruction :: passed, ahead⟩)
      | none => nextFrom lines (instruction :: passed) ahead

def next (walk : CallWalk) : Option Call × CallWalk :=
  nextFrom walk.lines walk.passed walk.ahead

def restFrom (lines : List LineNumber) : (passed ahead : List Instruction) → List Call
  | _, [] => []
  | passed, instruction :: ahead =>
      (callAt? lines passed instruction).toList ++ restFrom lines (instruction :: passed) ahead

/-- All calls that are left, with the walk at its end. -/
def rest (walk : CallWalk) : List Call × CallWalk :=
  (restFrom walk.lines walk.passed walk.ahead,
    ⟨walk.lines, walk.ahead.reverse ++ walk.passed, []⟩)

end CallWalk

def ClassFile.Method.calls (method : Method) : List Call :=
  (CallWalk.start method).rest.1

end GrantSurvey
