import GrantSurvey.Proofs.BodyGrammar

/-!
# Jump targets

The marks of decoded instructions are exact: an instruction is marked if and only if it is the
entry of an exception handler or some instruction of the body leads to it.
-/

namespace GrantSurvey.ClassFile.Bytecode

/-- When all jumps land, the collected offsets are those that the form leads to. -/
theorem Form.Lands.mem_targets_iff {place : Nat} {form : Form} (lands : form.Lands place)
    (target : Nat) : target ∈ form.targets place ↔ form.LeadsTo place target := by
  constructor
  · intro member
    rcases List.mem_append.mp member with jumped | returned
    · obtain ⟨distance, held, rfl⟩ := List.mem_map.mp jumped
      exact .jump held (Int.toNat_of_nonneg (lands distance held).1).symm
    · split at returned
      · rename_i calls
        exact .comeBack calls (List.mem_singleton.mp returned).symm
      · cases returned
  · intro leads
    cases leads with
    | jump held landed =>
        refine List.mem_append_left _ (List.mem_map.mpr ⟨_, held, ?_⟩)
        rw [landed, Int.toNat_natCast]
    | comeBack calls next =>
        refine List.mem_append_right _ ?_
        rw [if_pos calls, next]
        exact List.mem_singleton_self _

/-- A step leads where the form at its offset leads. -/
theorem ReadsAs.mem_destinations_iff {symbols : Symbols} {forms : List Form} {result : List Step}
    (readsAs : ReadsAs symbols 0 forms result) {step : Step} (member : step ∈ result)
    (target : Nat) :
    target ∈ step.destinations ↔
      ∃ form : Form, form.StandsAt (written forms) step.offset ∧
        form.LeadsTo step.offset target := by
  obtain ⟨place, inside, readAs⟩ := readsAs.exists_place member
  have stands : place.2.StandsAt (written forms) step.offset := by
    rw [readAs.offset_eq]
    exact readsAs.splits.standsAt inside
  rw [readAs.destinations_eq, readAs.lands.mem_targets_iff, ← readAs.offset_eq]
  constructor
  · intro leads
    exact ⟨place.2, stands, leads⟩
  · rintro ⟨form, otherStands, leads⟩
    rw [← stands.unique otherStands]
    exact leads

/-- May control arrive at `target` other than from the instruction before it? It may if a handler
starts there, or if an instruction of the body leads there. -/
def MayArrive (code : List UInt8) (handlers : List Nat) (instructions : List Instruction)
    (target : Nat) : Prop :=
  target ∈ handlers ∨ ∃ source ∈ instructions, ∃ form : Form,
    form.StandsAt code source.offset ∧ form.LeadsTo source.offset target

/-- The mark that an instruction at `offset` gets. -/
theorem jumpTarget_mark {handlers : List Nat} {result : List Step} {instruction : Instruction}
    (member : instruction ∈ mark handlers result) :
    instruction.jumpTarget = true ↔ instruction.offset ∈ handlers ∨
      ∃ source ∈ result, instruction.offset ∈ source.destinations := by
  obtain ⟨step, _, rfl⟩ := List.mem_map.mp member
  simp only [List.contains_iff_mem, List.mem_append, List.mem_flatMap]

/-- Every step becomes an instruction at the same offset. -/
theorem exists_mem_mark (handlers : List Nat) {result : List Step} {step : Step}
    (member : step ∈ result) : ∃ instruction ∈ mark handlers result,
      instruction.offset = step.offset :=
  ⟨_, List.mem_map_of_mem member, rfl⟩

/-- No mark is missing: where control may arrive, the instruction is marked. -/
theorem marked_of_mayArrive {symbols : Symbols} {handlers : List Nat} {code : List UInt8}
    {instructions : List Instruction} (decoded : decode symbols handlers code = .ok instructions)
    {instruction : Instruction} (member : instruction ∈ instructions)
    (arrives : MayArrive code handlers instructions instruction.offset) :
    instruction.jumpTarget = true := by
  obtain ⟨forms, result, rfl, readsAs, rfl⟩ := decode_eq_ok_iff.mp decoded
  rw [jumpTarget_mark member]
  rcases arrives with handled | ⟨source, sourceMember, form, stands, leads⟩
  · exact Or.inl handled
  · obtain ⟨step, stepMember, rfl⟩ := List.mem_map.mp sourceMember
    exact Or.inr ⟨step, stepMember,
      (readsAs.mem_destinations_iff stepMember _).mpr ⟨form, stands, leads⟩⟩

/-- No mark is invented: where an instruction is marked, control may arrive. -/
theorem mayArrive_of_marked {symbols : Symbols} {handlers : List Nat} {code : List UInt8}
    {instructions : List Instruction} (decoded : decode symbols handlers code = .ok instructions)
    {instruction : Instruction} (member : instruction ∈ instructions)
    (marked : instruction.jumpTarget = true) :
    MayArrive code handlers instructions instruction.offset := by
  obtain ⟨forms, result, rfl, readsAs, rfl⟩ := decode_eq_ok_iff.mp decoded
  rcases (jumpTarget_mark member).mp marked with handled | ⟨step, stepMember, leads⟩
  · exact Or.inl handled
  · obtain ⟨source, sourceMember, offsets⟩ := exists_mem_mark handlers stepMember
    refine Or.inr ⟨source, sourceMember, ?_⟩
    rw [offsets]
    exact (readsAs.mem_destinations_iff stepMember _).mp leads

/-- The marks are exact: an instruction is a jump target if and only if it is the entry of a
handler or some instruction of the body, before it, after it or itself, leads to it by a jump, by a
case of a switch, or as the place at which a subroutine comes back. -/
theorem jumpTarget_exact {symbols : Symbols} {handlers : List Nat} {code : List UInt8}
    {instructions : List Instruction} (decoded : decode symbols handlers code = .ok instructions)
    {instruction : Instruction} (member : instruction ∈ instructions) :
    instruction.jumpTarget = true ↔
      instruction.offset ∈ handlers ∨ ∃ source ∈ instructions, ∃ form : Form,
        form.StandsAt code source.offset ∧ form.LeadsTo source.offset instruction.offset :=
  ⟨mayArrive_of_marked decoded member, marked_of_mayArrive decoded member⟩

/-- The instruction after a subroutine call is marked because the subroutine comes back there; it
is no handler. -/
theorem jumpTarget_exact_after_subroutine :
    let symbols : Symbols :=
      { method := fun index => .error (.missingMethodReference index)
        literal := fun index => .error (.missingConstant index) }
    let code : List UInt8 :=
      [0x1a, 0xab, 0, 0, 0, 0, 0, 27, 0, 0, 0, 1, 0, 0, 0, 7, 0, 0, 0, 23, 0, 0, 0, 0,
        0xa8, 0, 4, 0xb1, 0xb1]
    let instructions : List Instruction :=
      [⟨0, .push 0x1a, false⟩, ⟨1, .other 0xab, false⟩, ⟨20, .other 0, false⟩,
        ⟨21, .other 0, true⟩, ⟨22, .other 0, false⟩, ⟨23, .other 0, false⟩,
        ⟨24, .other 0xa8, true⟩, ⟨27, .other 0xb1, true⟩, ⟨28, .other 0xb1, true⟩]
    decode symbols [21] code = .ok instructions ∧
      ⟨27, .other 0xb1, true⟩ ∈ instructions ∧
      ∃ source ∈ instructions, ∃ form : Form,
        form.StandsAt code source.offset ∧ form.LeadsTo source.offset 27 := by
  intro symbols code instructions
  have decoded : decode symbols [21] code = .ok instructions := by decide +kernel
  have member : ⟨27, .other 0xb1, true⟩ ∈ instructions := by decide
  exact ⟨decoded, member, ((jumpTarget_exact decoded member).mp rfl).resolve_left (by decide)⟩

end GrantSurvey.ClassFile.Bytecode
