import GrantSurvey.Proofs.OperandStack

/-!
# How far arguments are recovered

The walk back from a call recovers a literal exactly if that literal is loaded before the call, if
all instructions in between push one value each, and if control cannot arrive anywhere between the
load and the call. At the load itself it may arrive.
-/

namespace GrantSurvey

/-- The parameters of a descriptor are read one after the other. -/
theorem Descriptor.parameterTypes_cons {char : Char} {text after : List Char} {type : JavaType}
    {rest : Shorter (char :: text)} {types : List JavaType} (inside : char ≠ ')')
    (first : javaType (char :: text) = .ok (type, rest))
    (others : parameterTypes rest.1 = .ok (types, after)) :
    parameterTypes (char :: text) = .ok (type :: types, after) := by
  rw [parameterTypes, first]
  · change (parameterTypes rest.1 >>= _) = _
    rw [others]
    rfl
  · simp
  · simpa using inside

namespace Call

open ClassFile

/-- The instruction adds one value to the stack and leaves the others alone. -/
def PushesOne (instruction : Instruction) : Prop :=
  (∃ value, instruction.effect = .constant value) ∨ ∃ opcode, instruction.effect = .push opcode

/-! ## Instructions from the nearest on -/

/-- Instructions, the nearest first, that leave a literal at a certain depth of the stack, where the
topmost value has depth zero. -/
inductive Leaves : List Instruction → Nat → Literal → Prop where
  | atTop {instruction : Instruction} {preceding : List Instruction} {value : Literal}
      (loads : instruction.effect = .constant value) : Leaves (instruction :: preceding) 0 value
  | deeper {instruction : Instruction} {preceding : List Instruction} {depth : Nat}
      {value : Literal} (pushes : PushesOne instruction) (unmarked : instruction.jumpTarget = false)
      (leaves : Leaves preceding depth value) : Leaves (instruction :: preceding) (depth + 1) value

theorem leaves_zero_iff {instruction : Instruction} {preceding : List Instruction}
    {value : Literal} :
    Leaves (instruction :: preceding) 0 value ↔ instruction.effect = .constant value := by
  constructor
  · intro leaves
    cases leaves with
    | atTop loads => exact loads
  · exact .atTop

theorem leaves_succ_iff {instruction : Instruction} {preceding : List Instruction} {depth : Nat}
    {value : Literal} :
    Leaves (instruction :: preceding) (depth + 1) value ↔
      PushesOne instruction ∧ instruction.jumpTarget = false ∧ Leaves preceding depth value := by
  constructor
  · intro leaves
    cases leaves with
    | deeper pushes unmarked leaves => exact ⟨pushes, unmarked, leaves⟩
  · rintro ⟨pushes, unmarked, leaves⟩
    exact .deeper pushes unmarked leaves

/-- Whatever is left, the nearest instruction has pushed one value. -/
theorem Leaves.pushesOne {instruction : Instruction} {preceding : List Instruction} {depth : Nat}
    {value : Literal} (leaves : Leaves (instruction :: preceding) depth value) :
    PushesOne instruction := by
  cases leaves with
  | atTop loads => exact Or.inl ⟨value, loads⟩
  | deeper pushes => exact pushes

theorem not_leaves_nil {depth : Nat} {value : Literal} : ¬ Leaves [] depth value := by
  intro leaves
  cases leaves

/-- Where the walk stops, nothing is recovered, so nothing may be left. -/
theorem replicate_none_eq_some_iff {count depth : Nat} {value : Literal} {P : Prop}
    (nothing : ¬ P) :
    (List.replicate count (none : Option Literal))[depth]? = some (some value) ↔
      depth < count ∧ P := by
  constructor
  · intro found
    exact (OperandStack.not_mem_replicate_none found).elim
  · intro found
    exact (nothing found.2).elim

/-- The walk recovers exactly what the instructions leave, unless control may arrive at once. -/
theorem topmost_eq_some_iff {count depth : Nat} {arrival : Bool} {preceding : List Instruction}
    {value : Literal} :
    (topmost count arrival preceding)[depth]? = some (some value) ↔
      depth < count ∧ arrival = false ∧ Leaves preceding depth value := by
  fun_induction topmost count arrival preceding generalizing depth with
  | case1 => simp
  | case2 count instruction preceding literal loads ih =>
      cases depth with
      | zero => simp [leaves_zero_iff, loads]
      | succ depth => simp [leaves_succ_iff, ih, PushesOne, loads]
  | case3 count instruction preceding opcode pushes ih =>
      cases depth with
      | zero => simp [leaves_zero_iff, pushes]
      | succ depth => simp [leaves_succ_iff, ih, PushesOne, pushes]
  | case4 count instruction preceding kind callee calls =>
      refine replicate_none_eq_some_iff fun found => ?_
      simpa [PushesOne, calls] using found.2.pushesOne
  | case5 count instruction preceding opcode acts =>
      refine replicate_none_eq_some_iff fun found => ?_
      simpa [PushesOne, acts] using found.2.pushesOne
  | case6 arrival preceding count stops =>
      refine replicate_none_eq_some_iff fun found => ?_
      cases preceding with
      | nil => exact not_leaves_nil found.2
      | cons instruction preceding => exact stops instruction preceding found.1 rfl

/-- What instructions leave, place by place. -/
theorem leaves_iff {preceding : List Instruction} {depth : Nat} {value : Literal} :
    Leaves preceding depth value ↔
      (∃ instruction, preceding[depth]? = some instruction ∧
        instruction.effect = .constant value) ∧
      ∀ nearer < depth, ∃ instruction, preceding[nearer]? = some instruction ∧
        PushesOne instruction ∧ instruction.jumpTarget = false := by
  induction depth generalizing preceding with
  | zero =>
      cases preceding with
      | nil => simp [not_leaves_nil]
      | cons instruction preceding => simp [leaves_zero_iff]
  | succ depth ih =>
      cases preceding with
      | nil => simp [not_leaves_nil]
      | cons instruction preceding =>
          rw [leaves_succ_iff, ih, Nat.forall_lt_succ_left]
          simp only [List.getElem?_cons_zero, List.getElem?_cons_succ, Option.some_inj,
            exists_eq_left']
          constructor
          · rintro ⟨pushes, unmarked, loads, between⟩
            exact ⟨loads, ⟨pushes, unmarked⟩, between⟩
          · rintro ⟨loads, ⟨pushes, unmarked⟩, between⟩
            exact ⟨pushes, unmarked, loads, between⟩

/-! ## Instructions by their number -/

/-- The instruction at `index` finds a literal at a depth of the stack: the literal is loaded
`depth + 1` instructions before, all instructions in between push one value, and none of those after
the load, the one at `index` included, is a jump target. -/
structure Recoverable (instructions : List Instruction) (index depth : Nat) (value : Literal) :
    Prop where
  inside : depth < index
  loads : ∃ instruction, instructions[index - 1 - depth]? = some instruction ∧
    instruction.effect = .constant value
  pushes : ∀ nearer < depth, ∃ instruction,
    instructions[index - 1 - nearer]? = some instruction ∧ PushesOne instruction
  unmarked : ∀ back ≤ depth, ∃ instruction,
    instructions[index - back]? = some instruction ∧ instruction.jumpTarget = false

theorem getElem?_preceding {instructions : List Instruction} {index nearer : Nat}
    (inside : index ≤ instructions.length) (before : nearer < index) :
    (instructions.take index).reverse[nearer]? = instructions[index - 1 - nearer]? := by
  have length : (instructions.take index).length = index := List.length_take_of_le inside
  rw [List.getElem?_reverse (by omega), length, List.getElem?_take_of_lt (by omega)]

/-- What the instructions before a call leave is recoverable, unless the call is a jump target. -/
theorem recoverable_iff {instructions : List Instruction} {index depth : Nat}
    {invoke : Instruction} {value : Literal} (here : instructions[index]? = some invoke) :
    Recoverable instructions index depth value ↔
      invoke.jumpTarget = false ∧ Leaves (instructions.take index).reverse depth value := by
  have inside : index ≤ instructions.length :=
    Nat.le_of_lt (List.getElem?_eq_some_iff.mp here).1
  have back (nearer : Nat) : index - (nearer + 1) = index - 1 - nearer := by omega
  rw [leaves_iff]
  constructor
  · rintro ⟨before, loads, pushes, unmarked⟩
    refine ⟨?_, ?_, fun nearer close => ?_⟩
    · obtain ⟨instruction, found, unmarked⟩ := unmarked 0 (Nat.zero_le depth)
      cases here.symm.trans found
      exact unmarked
    · rwa [getElem?_preceding inside before]
    · obtain ⟨instruction, found, pushes⟩ := pushes nearer close
      obtain ⟨other, otherFound, unmarked⟩ := unmarked (nearer + 1) close
      rw [back, found] at otherFound
      cases otherFound
      rw [getElem?_preceding inside (by omega)]
      exact ⟨instruction, found, pushes, unmarked⟩
  · rintro ⟨unmarked, loads, between⟩
    have before : depth < index := by
      obtain ⟨instruction, found, _⟩ := loads
      have short := (List.getElem?_eq_some_iff.mp found).1
      rwa [List.length_reverse, List.length_take_of_le inside] at short
    have between (nearer : Nat) (close : nearer < depth) :
        ∃ instruction, instructions[index - 1 - nearer]? = some instruction ∧
          PushesOne instruction ∧ instruction.jumpTarget = false := by
      have found := between nearer close
      rwa [getElem?_preceding inside (by omega)] at found
    refine ⟨before, ?_, fun nearer close => ?_, fun steps close => ?_⟩
    · rwa [getElem?_preceding inside before] at loads
    · obtain ⟨instruction, found, pushes, _⟩ := between nearer close
      exact ⟨instruction, found, pushes⟩
    · cases steps with
      | zero => exact ⟨invoke, here, unmarked⟩
      | succ nearer =>
          obtain ⟨instruction, found, _, unmarked⟩ := between nearer close
          exact ⟨instruction, back nearer ▸ found, unmarked⟩

/-! ## Arguments -/

section Slots

variable {preceding : List Instruction} {invoke : Instruction} {text : String}
  {descriptor : Descriptor}

theorem literalArguments_of_error {fault : Descriptor.Fault}
    (malformed : Descriptor.parse text = .error fault) :
    literalArguments preceding invoke text = [] := by
  simp only [literalArguments, Descriptor.parameterCount, malformed]

theorem literalArguments_of_ok (parsed : Descriptor.parse text = .ok descriptor) :
    literalArguments preceding invoke text =
      (topmost descriptor.parameters.length invoke.jumpTarget preceding).reverse := by
  simp only [literalArguments, Descriptor.parameterCount, parsed]

theorem length_literalArguments (parsed : Descriptor.parse text = .ok descriptor) :
    (literalArguments preceding invoke text).length = descriptor.parameters.length := by
  rw [literalArguments_of_ok parsed, List.length_reverse, OperandStack.length_topmost]

/-- The last parameter lies at the top of the stack. -/
theorem getElem?_literalArguments (parsed : Descriptor.parse text = .ok descriptor) {depth : Nat}
    (declared : depth < descriptor.parameters.length) :
    (literalArguments preceding invoke text)[descriptor.parameters.length - 1 - depth]? =
      (topmost descriptor.parameters.length invoke.jumpTarget preceding)[depth]? := by
  have place : descriptor.parameters.length - 1 - (descriptor.parameters.length - 1 - depth) =
      depth := by
    omega
  rw [literalArguments_of_ok parsed,
    List.getElem?_reverse (by rw [OperandStack.length_topmost]; omega),
    OperandStack.length_topmost, place]

end Slots

/-- The arguments that are recovered for a call. There are none if the descriptor cannot be read.
Otherwise there is one slot for each parameter, and the slot of the parameter that lies at a depth
of the stack, the last one at the top, holds a literal exactly if the literal is recoverable from
there. All other slots hold nothing. -/
theorem literalArguments_extent {instructions : List Instruction} {index : Nat}
    {invoke : Instruction} (here : instructions[index]? = some invoke) {kind : CallKind}
    {callee : MethodSymbol} (_ : invoke.effect = .invoke kind callee) :
    let arguments := literalArguments (instructions.take index).reverse invoke callee.descriptor
    (∀ fault, Descriptor.parse callee.descriptor = .error fault → arguments = []) ∧
    ∀ descriptor, Descriptor.parse callee.descriptor = .ok descriptor →
      arguments.length = descriptor.parameters.length ∧
      ∀ depth < descriptor.parameters.length,
        (∀ value, arguments[descriptor.parameters.length - 1 - depth]? = some (some value) ↔
          Recoverable instructions index depth value) ∧
        ((∀ value, ¬ Recoverable instructions index depth value) →
          arguments[descriptor.parameters.length - 1 - depth]? = some none) := by
  intro arguments
  refine ⟨fun fault => literalArguments_of_error, fun descriptor parsed =>
    ⟨length_literalArguments parsed, fun depth declared => ?_⟩⟩
  have slots (value : Literal) :
      arguments[descriptor.parameters.length - 1 - depth]? = some (some value) ↔
        Recoverable instructions index depth value := by
    rw [getElem?_literalArguments parsed declared, topmost_eq_some_iff, recoverable_iff here]
    exact and_iff_right declared
  refine ⟨slots, fun nothing => ?_⟩
  have length : arguments.length = descriptor.parameters.length := length_literalArguments parsed
  obtain ⟨slot, found⟩ : ∃ slot, arguments[descriptor.parameters.length - 1 - depth]? = some slot :=
    ⟨_, List.getElem?_eq_getElem (by omega)⟩
  cases slot with
  | none => exact found
  | some value => exact absurd ((slots value).mp found) (nothing value)

/-- Control may arrive at the load of the second argument. That argument is recovered, and the first
one, which is loaded before, is not. -/
theorem literalArguments_extent_marked_load :
    let callee : MethodSymbol := ⟨"java/awt/Robot", "mouseMove", "(II)V"⟩
    let invoke : Instruction := ⟨4, .invoke .virtual callee, false⟩
    let instructions : List Instruction :=
      [⟨0, .constant (.int 3), false⟩, ⟨2, .constant (.int 80), true⟩, invoke]
    let arguments := literalArguments (instructions.take 2).reverse invoke callee.descriptor
    instructions[2]? = some invoke ∧ invoke.effect = .invoke .virtual callee ∧
      Recoverable instructions 2 0 (.int 80) ∧ (∀ value, ¬ Recoverable instructions 2 1 value) ∧
      arguments.length = 2 ∧ arguments[1]? = some (some (.int 80)) ∧ arguments[0]? = some none := by
  intro callee invoke instructions arguments
  have parsed : Descriptor.parse callee.descriptor =
      .ok ⟨[.primitive 'I', .primitive 'I'], .primitive 'V'⟩ := by
    have types : Descriptor.parameterTypes ['I', 'I', ')', 'V'] =
        .ok ([.primitive 'I', .primitive 'I'], ['V']) :=
      Descriptor.parameterTypes_cons (by decide) rfl
        (Descriptor.parameterTypes_cons (by decide) rfl (by rw [Descriptor.parameterTypes]))
    simp only [Descriptor.parse, callee, String.reduceToList, types]
    rfl
  have second : Recoverable instructions 2 0 (.int 80) :=
    (recoverable_iff rfl).mpr ⟨rfl, .atTop rfl⟩
  have first (value : Literal) : ¬ Recoverable instructions 2 1 value := by
    intro recoverable
    have leaves := ((recoverable_iff rfl).mp recoverable).2
    cases (leaves_succ_iff.mp leaves).2.1
  have here : instructions[2]? = some invoke := rfl
  have calls : invoke.effect = .invoke .virtual callee := rfl
  obtain ⟨length, slots⟩ := (literalArguments_extent here calls).2 _ parsed
  exact ⟨here, calls, second, first, length, ((slots 0 (by decide)).1 _).mpr second,
    (slots 1 (by decide)).2 first⟩

end Call

end GrantSurvey
