import GrantSurvey.Call
import GrantSurvey.Proofs.JumpTargets

/-!
# Literals on the operand stack

The recovered arguments of a call are what is on the stack when the call is made. The stack is that
of a machine which knows no more of an instruction than its effect: it loads literals, pushes
unknown values, forgets the stack at every other instruction, and may at any time arrive, with any
stack, wherever the body allows control to arrive.
-/

namespace GrantSurvey.OperandStack

open ClassFile ClassFile.Bytecode

/-- The number of the instruction that comes next, and the operand stack, topmost value first. -/
structure State (Value : Type) where
  index : Nat
  stack : List Value

section Machine

variable {Value : Type} (literal : Literal → Value) (code : List UInt8) (handlers : List Nat)
  (instructions : List Instruction)

/-- One move of the machine. The values are those of any domain in which literals have a meaning. -/
inductive Move : State Value → State Value → Prop where
  | constant {index : Nat} {stack : List Value} {instruction : Instruction} {value : Literal}
      (here : instructions[index]? = some instruction)
      (loads : instruction.effect = .constant value) :
      Move ⟨index, stack⟩ ⟨index + 1, literal value :: stack⟩
  | push {index : Nat} {stack : List Value} {instruction : Instruction} {opcode : UInt8}
      (here : instructions[index]? = some instruction)
      (pushes : instruction.effect = .push opcode) (value : Value) :
      Move ⟨index, stack⟩ ⟨index + 1, value :: stack⟩
  | invoke {index : Nat} {stack : List Value} {instruction : Instruction} {kind : CallKind}
      {callee : MethodSymbol} (here : instructions[index]? = some instruction)
      (calls : instruction.effect = .invoke kind callee) (after : List Value) :
      Move ⟨index, stack⟩ ⟨index + 1, after⟩
  | other {index : Nat} {stack : List Value} {instruction : Instruction} {opcode : UInt8}
      (here : instructions[index]? = some instruction)
      (acts : instruction.effect = .other opcode) (after : List Value) :
      Move ⟨index, stack⟩ ⟨index + 1, after⟩
  | arrive {index next : Nat} {stack : List Value} {instruction target : Instruction}
      (here : instructions[index]? = some instruction)
      (there : instructions[next]? = some target)
      (arrives : MayArrive code handlers instructions target.offset) (after : List Value) :
      Move ⟨index, stack⟩ ⟨next, after⟩

/-- The states that the machine may come to, starting before the first instruction with any
stack. -/
inductive Reachable : State Value → Prop where
  | start (stack : List Value) : Reachable ⟨0, stack⟩
  | move {state next : State Value} (reachable : Reachable state)
      (moves : Move literal code handlers instructions state next) : Reachable next

/-- Whatever a walk back from the next instruction recovers is on the stack. -/
def Backed (state : State Value) : Prop :=
  ∀ instruction, instructions[state.index]? = some instruction →
    ∀ (count depth : Nat) (value : Literal),
    (Call.topmost count instruction.jumpTarget (instructions.take state.index).reverse)[depth]? =
      some (some value) → state.stack[depth]? = some (literal value)

end Machine

/-! ## Walking back -/

@[simp]
theorem length_topmost (count : Nat) (arrival : Bool) (preceding : List Instruction) :
    (Call.topmost count arrival preceding).length = count := by
  fun_induction Call.topmost count arrival preceding <;> simp_all

theorem not_mem_replicate_none {count depth : Nat} {value : Literal}
    (found : (List.replicate count (none : Option Literal))[depth]? = some (some value)) :
    False := by
  have member := List.mem_of_getElem? found
  cases (List.mem_replicate.mp member).2

/-- A walk that starts where control may arrive recovers nothing. -/
theorem topmost_arrival {count depth : Nat} {preceding : List Instruction} {value : Literal}
    (found : (Call.topmost count true preceding)[depth]? = some (some value)) : False := by
  cases count with
  | zero => cases found
  | succ count => exact not_mem_replicate_none found

/-- What is recovered comes from the nearest instruction, or from beyond it if it pushes one
value. -/
theorem topmost_cons {count depth : Nat} {arrival : Bool} {instruction : Instruction}
    {preceding : List Instruction} {value : Literal}
    (found : (Call.topmost count arrival (instruction :: preceding))[depth]? = some (some value)) :
    (depth = 0 ∧ instruction.effect = .constant value) ∨
      ∃ rest before, depth = before + 1 ∧
        (Call.topmost rest instruction.jumpTarget preceding)[before]? = some (some value) ∧
        ((∃ literal, instruction.effect = .constant literal) ∨
          ∃ opcode, instruction.effect = .push opcode) := by
  cases arrival with
  | true => exact (topmost_arrival found).elim
  | false =>
      cases count with
      | zero => cases found
      | succ count =>
          simp only [Call.topmost] at found
          split at found
          · rename_i literal loads
            cases depth with
            | zero =>
                cases found
                exact Or.inl ⟨rfl, loads⟩
            | succ before => exact Or.inr ⟨count, before, rfl, found, Or.inl ⟨literal, loads⟩⟩
          · rename_i opcode pushes
            cases depth with
            | zero => cases found
            | succ before => exact Or.inr ⟨count, before, rfl, found, Or.inr ⟨opcode, pushes⟩⟩
          · exact (not_mem_replicate_none found).elim
          · exact (not_mem_replicate_none found).elim

/-! ## The invariant -/

section Invariant

variable {Value : Type} {literal : Literal → Value} {symbols : Symbols} {code : List UInt8}
  {handlers : List Nat} {instructions : List Instruction}

theorem backed_start (stack : List Value) : Backed literal instructions ⟨0, stack⟩ := by
  intro instruction here count depth value found
  rw [List.take_zero, List.reverse_nil] at found
  cases count with
  | zero => cases found
  | succ count => cases arrival : instruction.jumpTarget <;> rw [arrival] at found <;>
      exact (not_mem_replicate_none found).elim

/-- Going on to the next instruction extends the walk by the instruction that has been executed. -/
theorem take_succ_reverse {index : Nat} {instruction : Instruction}
    (here : instructions[index]? = some instruction) :
    (instructions.take (index + 1)).reverse = instruction :: (instructions.take index).reverse := by
  rw [List.take_add_one, here]
  simp

/-- Executing an instruction that pushes a value extends what is known of the stack. -/
theorem Backed.goOn {index : Nat} {stack : List Value} {instruction : Instruction} {top : Value}
    (backed : Backed literal instructions ⟨index, stack⟩)
    (here : instructions[index]? = some instruction)
    (loaded : ∀ value, instruction.effect = .constant value → top = literal value) :
    Backed literal instructions ⟨index + 1, top :: stack⟩ := by
  intro next _ count depth value found
  rw [take_succ_reverse here] at found
  rcases topmost_cons found with ⟨rfl, loads⟩ | ⟨rest, before, rfl, found, _⟩
  · exact congrArg some (loaded value loads)
  · exact backed instruction here rest before value found

/-- After an instruction that neither loads a literal nor pushes one value nothing is known. -/
theorem backed_forget {index : Nat} {instruction : Instruction} {after : List Value}
    (here : instructions[index]? = some instruction)
    (noConstant : ∀ value, instruction.effect ≠ .constant value)
    (noPush : ∀ opcode, instruction.effect ≠ .push opcode) :
    Backed literal instructions ⟨index + 1, after⟩ := by
  intro next _ count depth value found
  rw [take_succ_reverse here] at found
  rcases topmost_cons found with ⟨_, loads⟩ | ⟨_, _, _, _, ⟨_, loads⟩ | ⟨_, pushes⟩⟩
  · exact absurd loads (noConstant value)
  · exact absurd loads (noConstant _)
  · exact absurd pushes (noPush _)

/-- Every move of the machine preserves the invariant. Arriving from elsewhere does so because the
instruction is marked, so that the walk stops at once. -/
theorem Backed.move (decoded : decode symbols handlers code = .ok instructions)
    {state next : State Value} (backed : Backed literal instructions state)
    (moves : Move literal code handlers instructions state next) :
    Backed literal instructions next := by
  cases moves with
  | constant here loads =>
      refine backed.goOn here ?_
      intro value loads'
      cases loads.symm.trans loads'
      rfl
  | push here pushes value =>
      refine backed.goOn here ?_
      intro value loads
      cases pushes.symm.trans loads
  | invoke here calls after =>
      exact backed_forget here (fun _ => by simp [calls]) (fun _ => by simp [calls])
  | other here acts after =>
      exact backed_forget here (fun _ => by simp [acts]) (fun _ => by simp [acts])
  | @arrive _ _ _ _ target here there arrives after =>
      -- Nothing is known of the stack, and the mark keeps the walk from recovering anything.
      intro instruction here' count depth value found
      obtain rfl : target = instruction := Option.some.inj (there.symm.trans here')
      rw [marked_of_mayArrive decoded (List.mem_of_getElem? there) arrives] at found
      exact (topmost_arrival found).elim

/-- The invariant holds in every reachable state. -/
theorem Reachable.backed (decoded : decode symbols handlers code = .ok instructions)
    {state : State Value} (reachable : Reachable literal code handlers instructions state) :
    Backed literal instructions state := by
  induction reachable with
  | start stack => exact backed_start stack
  | move _ moves ih => exact ih.move decoded moves

/-- A recovered argument is the value that the stack holds for its parameter when the call is
made. -/
theorem literalArguments_on_stack (decoded : decode symbols handlers code = .ok instructions)
    {state : State Value} (reachable : Reachable literal code handlers instructions state)
    {invoke : Instruction} (here : instructions[state.index]? = some invoke)
    {kind : CallKind} {callee : MethodSymbol} (_ : invoke.effect = .invoke kind callee)
    {count : Nat} (counted : Descriptor.parameterCount callee.descriptor = .ok count)
    {slot : Nat} (declared : slot < count) {value : Literal}
    (recovered : (Call.literalArguments (instructions.take state.index).reverse invoke
      callee.descriptor)[slot]? = some (some value)) :
    state.stack[count - 1 - slot]? = some (literal value) := by
  rw [Call.literalArguments, counted] at recovered
  dsimp only at recovered
  rw [List.getElem?_reverse (by rw [length_topmost]; exact declared), length_topmost] at recovered
  exact reachable.backed decoded invoke here count _ value recovered

end Invariant

/-- A text is loaded, then an unknown value, then a method of two parameters is called: the text is
the first argument, and it lies below the unknown value. -/
theorem literalArguments_on_stack_below_unknown :
    let callee : MethodSymbol := ⟨"java/net/Socket", "<init>", "(Ljava/lang/String;I)V"⟩
    let symbols : Symbols :=
      { method := fun _ => .ok callee, literal := fun _ => .ok (some (.text "example.com")) }
    let code : List UInt8 := [0x12, 1, 0x1a, 0xb7, 0, 2, 0xa7, 255, 250]
    let invoke : Instruction := ⟨3, .invoke .special callee, false⟩
    let instructions : List Instruction :=
      [⟨0, .constant (.text "example.com"), true⟩, ⟨2, .push 0x1a, false⟩, invoke,
        ⟨6, .other 0xa7, false⟩]
    let stack : List Literal := [.int 443, .text "example.com"]
    decode symbols [] code = .ok instructions ∧
      Reachable id code [] instructions ⟨2, stack⟩ ∧ instructions[2]? = some invoke ∧
      Descriptor.parameterCount callee.descriptor = .ok 2 ∧
      (Call.literalArguments (instructions.take 2).reverse invoke callee.descriptor)[0]? =
        some (some (.text "example.com")) ∧
      stack[2 - 1 - 0]? = some (id (.text "example.com")) := by
  intro callee symbols code invoke instructions stack
  have checked : decode symbols [] code = .ok instructions ∧
      Descriptor.parameterCount callee.descriptor = .ok 2 := by
    decide +kernel
  obtain ⟨decoded, counted⟩ := checked
  have reachable : Reachable id code [] instructions ⟨2, stack⟩ :=
    .move (.move (.start []) (.constant rfl rfl)) (.push rfl rfl (Literal.int 443))
  have recovered : (Call.literalArguments (instructions.take 2).reverse invoke
      callee.descriptor)[0]? = some (some (.text "example.com")) := by
    rw [Call.literalArguments, counted]
    rfl
  exact ⟨decoded, reachable, rfl, counted, recovered,
    literalArguments_on_stack decoded reachable rfl rfl counted (by decide) recovered⟩

end GrantSurvey.OperandStack
