import GrantSurvey.Proofs.ArgumentExtent
import GrantSurvey.Proofs.PatternSubstitution
import GrantSurvey.Rulebook.Basic

/-!
# More exception handlers

A handler more adds a place at which control may arrive. The instructions stay the same, arguments
of calls may be forgotten, and targets of permissions may give way to wildcards; nothing else
changes, and no permission is lost.
-/

namespace GrantSurvey

open ClassFile

/-! ## Marks -/

namespace ClassFile

/-- The same instruction, which may have become a jump target. -/
structure Instruction.MarkedMore (instruction other : Instruction) : Prop where
  offset : other.offset = instruction.offset
  effect : other.effect = instruction.effect
  marked : instruction.jumpTarget = true → other.jumpTarget = true

theorem Instruction.MarkedMore.unmarked {instruction other : Instruction}
    (markedMore : instruction.MarkedMore other) (unmarked : other.jumpTarget = false) :
    instruction.jumpTarget = false := by
  cases mark : instruction.jumpTarget with
  | false => rfl
  | true => exact absurd (markedMore.marked mark) (by simp [unmarked])

namespace Bytecode

/-- Handlers have no part in reading the bytes. -/
theorem decode_eq_ok_iff_mark {symbols : Symbols} {handlers : List Nat} {code : List UInt8}
    {instructions : List Instruction} :
    decode symbols handlers code = .ok instructions ↔
      ∃ result, steps symbols 0 code = .ok result ∧ mark handlers result = instructions := by
  simp only [decode, Outcome.bind_eq_ok_iff, Outcome.pure_eq_ok, Except.ok.injEq]

/-- Decoding goes on behind an instruction that has been read. -/
theorem steps_cons {symbols : Symbols} {offset size : Nat} {opcode : UInt8} {operands : List UInt8}
    {act : Effect} {targets : List Nat} {following : List Step}
    (measured : length offset opcode operands = .ok size)
    (enough : ¬ (size = 0 ∨ (operands.take (size - 1)).length < size - 1))
    (acts : effect symbols offset opcode operands = .ok act)
    (leads : destinations offset size opcode operands = .ok targets)
    (goesOn : steps symbols (offset + size) (operands.drop (size - 1)) = .ok following) :
    steps symbols offset (opcode :: operands) = .ok (⟨offset, act, targets⟩ :: following) := by
  rw [steps, measured, Outcome.ok_bind, if_neg enough, acts, leads, Outcome.ok_bind,
    Outcome.ok_bind, goesOn]
  rfl

theorem forall₂_markedMore {handlers more : List Nat} (contained : handlers ⊆ more)
    (result : List Step) :
    List.Forall₂ Instruction.MarkedMore (mark handlers result) (mark more result) := by
  rw [mark, mark, List.forall₂_map_left_iff, List.forall₂_map_right_iff, List.forall₂_same]
  intro step _
  refine ⟨rfl, rfl, ?_⟩
  simp only [List.contains_iff_mem, List.mem_append]
  exact Or.imp_left fun handled => contained handled

end Bytecode

end ClassFile

/-! ## Arguments -/

/-- What is known of arguments may be forgotten, and is not replaced by anything else. -/
def Forgets : (arguments others : List (Option Literal)) → Prop :=
  List.Forall₂ fun slot other => other = none ∨ other = slot

/-- An argument that is still known has been known. -/
theorem Forgets.known {arguments others : List (Option Literal)}
    (forgets : Forgets arguments others) {index : Nat} {literal : Literal}
    (known : others[index]?.join = some literal) :
    arguments[index]?.join = some literal := by
  induction forgets generalizing index with
  | nil => exact known
  | @cons slot other _ _ first _ ih =>
      cases index with
      | zero =>
          rcases first with rfl | rfl
          · cases known
          · exact known
      | succ index => exact ih known

namespace Call

/-- What is left in spite of more marks is left without them. -/
theorem Leaves.of_markedMore {preceding others : List Instruction} {depth : Nat} {value : Literal}
    (leaves : Leaves others depth value)
    (markedMore : List.Forall₂ Instruction.MarkedMore preceding others) :
    Leaves preceding depth value := by
  induction leaves generalizing preceding with
  | atTop loads =>
      cases markedMore with
      | cons first _ => exact .atTop (first.effect ▸ loads)
  | deeper pushes unmarked _ ih =>
      cases markedMore with
      | cons first rest =>
          rw [PushesOne, first.effect] at pushes
          exact .deeper pushes (first.unmarked unmarked) (ih rest)

/-- A walk that meets more marks forgets arguments at most. -/
theorem forgets_topmost {preceding others : List Instruction} {invoke other : Instruction}
    (count : Nat) (markedMore : List.Forall₂ Instruction.MarkedMore preceding others)
    (calls : invoke.MarkedMore other) :
    Forgets (topmost count invoke.jumpTarget preceding)
      (topmost count other.jumpTarget others) := by
  rw [Forgets, List.forall₂_iff_get]
  refine ⟨by simp only [OperandStack.length_topmost], fun slot inside otherInside => ?_⟩
  cases recovered : (topmost count other.jumpTarget others).get ⟨slot, otherInside⟩ with
  | none => exact Or.inl rfl
  | some value =>
      have found : (topmost count other.jumpTarget others)[slot]? = some (some value) :=
        List.getElem?_eq_some_iff.mpr ⟨otherInside, recovered⟩
      obtain ⟨declared, unmarked, leaves⟩ := topmost_eq_some_iff.mp found
      have kept := topmost_eq_some_iff.mpr
        ⟨declared, calls.unmarked unmarked, leaves.of_markedMore markedMore⟩
      exact Or.inr (List.getElem?_eq_some_iff.mp kept).2.symm

theorem forgets_literalArguments {preceding others : List Instruction} {invoke other : Instruction}
    (markedMore : List.Forall₂ Instruction.MarkedMore preceding others)
    (calls : invoke.MarkedMore other) (descriptor : String) :
    Forgets (literalArguments preceding invoke descriptor)
      (literalArguments others other descriptor) := by
  unfold literalArguments
  split
  · exact List.forall₂_reverse_iff.mpr (forgets_topmost _ markedMore calls)
  · exact .nil

end Call

/-! ## Calls -/

/-- The same call, of whose arguments less may be known. -/
structure Call.KnownLess (call other : Call) : Prop where
  callee : other.callee = call.callee
  kind : other.kind = call.kind
  offset : other.offset = call.offset
  line : other.line = call.line
  arguments : Forgets call.arguments other.arguments

namespace CallWalk

theorem forall₂_knownLess_callAt? (lines : List LineNumber) {passed others : List Instruction}
    {instruction other : Instruction}
    (markedMore : List.Forall₂ Instruction.MarkedMore passed others)
    (same : instruction.MarkedMore other) :
    List.Forall₂ Call.KnownLess (callAt? lines passed instruction).toList
      (callAt? lines others other).toList := by
  simp only [callAt?, same.effect, same.offset]
  cases instruction.effect with
  | invoke kind callee =>
      exact .cons ⟨rfl, rfl, rfl, rfl, Call.forgets_literalArguments markedMore same _⟩ .nil
  | _ => exact .nil

/-- The calls ahead are the same, one by one. -/
theorem forall₂_knownLess_restFrom (lines : List LineNumber)
    {passed others ahead otherAhead : List Instruction}
    (markedMore : List.Forall₂ Instruction.MarkedMore passed others)
    (markedMoreAhead : List.Forall₂ Instruction.MarkedMore ahead otherAhead) :
    List.Forall₂ Call.KnownLess (restFrom lines passed ahead)
      (restFrom lines others otherAhead) := by
  induction markedMoreAhead generalizing passed others with
  | nil => exact .nil
  | cons first _ ih =>
      exact List.rel_append (forall₂_knownLess_callAt? lines markedMore first)
        (ih (.cons first markedMore))

end CallWalk

/-! ## Permissions -/

namespace Rulebook

/-- Two permissions that a template gives, the second one for arguments of which less is known: the
target is the same or the wildcard of the template. -/
structure Template.Loosens (template : Template) (arguments others : List (Option Literal))
    (permission other : Permission) : Prop where
  resolved : template.resolve arguments = permission
  loosened : template.resolve others = other
  kind : other.kind = permission.kind
  actions : other.actions = permission.actions
  target : other.target = permission.target ∨
    ∃ pattern wildcard, template.target = .substitute pattern wildcard ∧ other.target = wildcard

theorem Target.resolve_of_forgets {arguments others : List (Option Literal)}
    (forgets : Forgets arguments others) (target : Target) :
    target.resolve others = target.resolve arguments ∨
      ∃ pattern wildcard, target = .substitute pattern wildcard ∧
        target.resolve others = wildcard := by
  cases target with
  | literal text => exact Or.inl rfl
  | substitute pattern wildcard =>
      cases found : Rulebook.substitute others pattern.toList with
      | none => exact Or.inr ⟨pattern, wildcard, rfl, by simp only [resolve, found]⟩
      | some text =>
          obtain ⟨tokens, reads⟩ := exists_tokens pattern.toList
          have same := reads.substitute_mono (fun _ _ _ known => forgets.known known) found
          exact Or.inl (by simp only [resolve, found, same])

/-- Each permission that a call needs has its counterpart. -/
theorem forall₂_loosens (book : Rulebook) {call other : Call} (knownLess : call.KnownLess other) :
    List.Forall₂ (fun permission otherPermission => ∃ template ∈ book.lookup call.callee,
        template.Loosens call.arguments other.arguments permission otherPermission)
      (book.require call) (book.require other) := by
  rw [require, require, permissions, permissions, knownLess.callee, List.forall₂_map_left_iff,
    List.forall₂_map_right_iff, List.forall₂_same]
  intro template member
  exact ⟨template, member, rfl, rfl, rfl, rfl,
    template.target.resolve_of_forgets knownLess.arguments⟩

end Rulebook

/-- More exception handlers only make the result more cautious. A body is decoded for both lists of
handlers or for neither, into the same instructions up to marks. The calls are the same, and of each
argument the same or nothing is known. Each permission has its counterpart from the same template,
which differs at most in that its target is the wildcard. -/
theorem more_handlers_only_forget (symbols : Symbols) (code : List UInt8) (book : Rulebook)
    {handlers more : List Nat} (contained : handlers ⊆ more) :
    ((∃ instructions, Bytecode.decode symbols handlers code = .ok instructions) ↔
      ∃ others, Bytecode.decode symbols more code = .ok others) ∧
    ∀ instructions others, Bytecode.decode symbols handlers code = .ok instructions →
      Bytecode.decode symbols more code = .ok others →
      List.Forall₂ Instruction.MarkedMore instructions others ∧
      ∀ (name descriptor : String) (lines : List LineNumber),
        List.Forall₂
          (fun call other => call.KnownLess other ∧
            List.Forall₂
              (fun permission loosened => ∃ template ∈ book.lookup call.callee,
                template.Loosens call.arguments other.arguments permission loosened)
              (book.require call) (book.require other))
          (Method.calls ⟨name, descriptor, instructions, lines⟩)
          (Method.calls ⟨name, descriptor, others, lines⟩) := by
  simp only [Bytecode.decode_eq_ok_iff_mark]
  constructor
  · constructor
    · rintro ⟨_, result, read, _⟩
      exact ⟨_, result, read, rfl⟩
    · rintro ⟨_, result, read, _⟩
      exact ⟨_, result, read, rfl⟩
  · rintro _ _ ⟨result, read, rfl⟩ ⟨otherResult, otherRead, rfl⟩
    obtain rfl : result = otherResult := Except.ok.inj (read.symm.trans otherRead)
    have markedMore := Bytecode.forall₂_markedMore contained result
    refine ⟨markedMore, fun name descriptor lines => ?_⟩
    exact (CallWalk.forall₂_knownLess_restFrom lines .nil markedMore).imp
      fun call other knownLess => ⟨knownLess, book.forall₂_loosens knownLess⟩

/-- A number is loaded and passed to a method that a rule knows. Once a handler starts at the call,
the number is no longer known to be the argument. -/
theorem more_handlers_only_forget_at_call :
    let callee : MethodSymbol := ⟨"F", "open", "(I)V"⟩
    let symbols : Symbols :=
      { method := fun _ => .ok callee
        literal := fun index => .error (.missingConstant index) }
    let code : List UInt8 := [0x10, 7, 0xb8, 0, 2]
    let template : Rulebook.Template := ⟨"P", .substitute "\x7b0\x7d" "*", "read"⟩
    let book : Rulebook := ⟨[⟨⟨"F", "open", none⟩, [template]⟩]⟩
    let instructions (arrival : Bool) : List Instruction :=
      [⟨0, .constant (.int 7), false⟩, ⟨2, .invoke .static callee, arrival⟩]
    let call (slot : Option Literal) : Call := ⟨callee, .static, 2, none, [slot]⟩
    ([] : List Nat) ⊆ [2] ∧
      Bytecode.decode symbols [] code = .ok (instructions false) ∧
      Bytecode.decode symbols [2] code = .ok (instructions true) ∧
      (call (some (.int 7))).KnownLess (call none) ∧
      List.Forall₂ (template.Loosens [some (.int 7)] [none])
        (book.require (call (some (.int 7)))) (book.require (call none)) := by
  intro callee symbols code template book instructions call
  have stops : Bytecode.steps symbols 5 [] = .ok [] := by rw [Bytecode.steps]
  have read : Bytecode.steps symbols 0 code =
      .ok [⟨0, .constant (.int 7), []⟩, ⟨2, .invoke .static callee, []⟩] :=
    Bytecode.steps_cons rfl (by decide) rfl rfl
      (Bytecode.steps_cons rfl (by decide) rfl rfl stops)
  have decoded : Bytecode.decode symbols [] code = .ok (instructions false) :=
    Bytecode.decode_eq_ok_iff_mark.mpr ⟨_, read, rfl⟩
  have otherDecoded : Bytecode.decode symbols [2] code = .ok (instructions true) :=
    Bytecode.decode_eq_ok_iff_mark.mpr ⟨_, read, rfl⟩
  have parsed : Descriptor.parse callee.descriptor =
      .ok ⟨[.primitive 'I'], .primitive 'V'⟩ := by
    have types : Descriptor.parameterTypes ['I', ')', 'V'] = .ok ([.primitive 'I'], ['V']) :=
      Descriptor.parameterTypes_cons (by decide) rfl (by rw [Descriptor.parameterTypes])
    simp only [Descriptor.parse, callee, String.reduceToList, types]
    rfl
  have calls (arrival : Bool) : Method.calls ⟨"m", "()V", instructions arrival, []⟩ =
      [call (if arrival then none else some (.int 7))] := by
    change [Call.mk callee .static 2 none (Call.literalArguments _ _ callee.descriptor)] = _
    rw [Call.literalArguments_of_ok parsed]
    cases arrival <;> rfl
  have contained : ([] : List Nat) ⊆ [2] := List.nil_subset _
  have forgets := ((more_handlers_only_forget symbols code book contained).2 _ _ decoded
    otherDecoded).2 "m" "()V" []
  rw [calls, calls] at forgets
  cases forgets with
  | cons first _ =>
      obtain ⟨knownLess, loosened⟩ := first
      refine ⟨contained, decoded, otherDecoded, knownLess, loosened.imp ?_⟩
      rintro permission other ⟨found, member, loosens⟩
      obtain rfl : found = template := List.mem_singleton.mp member
      exact loosens

end GrantSurvey
