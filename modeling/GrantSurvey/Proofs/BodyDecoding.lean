import GrantSurvey.Proofs.InstructionReading

/-!
# Decoding whole bodies

A body is accepted exactly when it is written as a sequence of complete forms whose look-ups are
answered and whose jumps stay within range. The sequence is then unique, and the decoded
instructions follow it one by one.
-/

namespace GrantSurvey.ClassFile.Bytecode

open Outcome

/-- The forms with the places at which they stand when the first of them stands at `offset`. -/
def placed (offset : Nat) : List Form → List (Nat × Form)
  | [] => []
  | form :: forms => (offset, form) :: placed (offset + form.size) forms

def written (forms : List Form) : List UInt8 :=
  forms.flatMap Form.bytes

def Form.targets (place : Nat) (form : Form) : List Nat :=
  form.distances.map (fun distance => ((place : Int) + distance).toNat) ++
    (if form.callsSubroutine then [place + form.size] else [])

def Form.Lands (place : Nat) (form : Form) : Prop :=
  ∀ distance ∈ form.distances,
    0 ≤ (place : Int) + distance ∧ (place : Int) + distance < offsetLimit

structure Form.ReadAs (symbols : Symbols) (place : Nat) (form : Form) (step : Step) : Prop where
  complete : form.Complete place
  denotes : form.Denotes symbols step.effect
  lands : form.Lands place
  offset_eq : step.offset = place
  destinations_eq : step.destinations = form.targets place

/-! ## One step -/

theorem landing_eq_ok_iff (offset : Nat) (distance : Int) (target : Nat) :
    landing offset distance = .ok target ↔
      (0 ≤ (offset : Int) + distance ∧ (offset : Int) + distance < offsetLimit) ∧
        ((offset : Int) + distance).toNat = target := by
  unfold landing
  dsimp only
  split
  · simp only [reduceCtorEq, false_iff]
    omega
  · split
    · simp only [Except.ok.injEq]
      omega
    · simp only [reduceCtorEq, false_iff]
      omega

theorem destinations_eq_ok_iff {offset : Nat} {form : Form} (complete : form.Complete offset)
    (rest : List UInt8) (targets : List Nat) :
    destinations offset form.size form.opcode (form.operands ++ rest) = .ok targets ↔
      form.Lands offset ∧ form.targets offset = targets := by
  simp only [destinations, complete.jumps_eq, ok_bind, bind_eq_ok_iff,
    mapM_eq_ok_iff (landing_eq_ok_iff offset), callsSubroutine_opcode complete, pure_eq_ok,
    Except.ok.injEq]
  constructor
  · rintro ⟨_, ⟨lands, rfl⟩, rfl⟩
    refine ⟨lands, ?_⟩
    unfold Form.targets
    split
    · rfl
    · exact List.append_nil _
  · rintro ⟨lands, rfl⟩
    refine ⟨_, ⟨lands, rfl⟩, ?_⟩
    unfold Form.targets
    split
    · rfl
    · exact (List.append_nil _).symm

/-- Decoding bytes that start with a complete form. -/
theorem steps_bytes_append (symbols : Symbols) {offset : Nat} {form : Form}
    (complete : form.Complete offset) (rest : List UInt8) :
    steps symbols offset (form.bytes ++ rest) = (do
      let effect ← effect symbols offset form.opcode (form.operands ++ rest)
      let destinations ← destinations offset form.size form.opcode (form.operands ++ rest)
      let following ← steps symbols (offset + form.size) rest
      return { offset, effect, destinations } :: following) := by
  have size : form.size - 1 = form.operands.length := rfl
  have enough : ¬ (form.size = 0 ∨
      ((form.operands ++ rest).take (form.size - 1)).length < form.size - 1) := by
    rw [size, List.take_left]
    simp [Form.size, Form.bytes]
  rw [Form.bytes, List.cons_append, steps, complete.length_eq, ok_bind, if_neg enough, size,
    List.drop_left]

/-- The decoder reads the first form of a body and then the others. -/
theorem steps_form_iff {symbols : Symbols} {offset : Nat} {form : Form}
    (complete : form.Complete offset) (rest : List UInt8) (result : List Step) :
    steps symbols offset (form.bytes ++ rest) = .ok result ↔
      ∃ step following, form.ReadAs symbols offset step ∧
        steps symbols (offset + form.size) rest = .ok following ∧ result = step :: following := by
  simp only [steps_bytes_append symbols complete, bind_eq_ok_iff, destinations_eq_ok_iff complete,
    pure_eq_ok, Except.ok.injEq]
  constructor
  · rintro ⟨effect, read, targets, ⟨lands, rfl⟩, following, decoded, rfl⟩
    exact ⟨_, following, ⟨complete, denotes_of_effect complete read, lands, rfl, rfl⟩, decoded, rfl⟩
  · rintro ⟨step, following, readAs, decoded, rfl⟩
    refine ⟨step.effect, readAs.denotes.effect_eq complete rest, step.destinations,
      ⟨readAs.lands, readAs.destinations_eq.symm⟩, following, decoded, ?_⟩
    rw [← readAs.offset_eq]

/-- Bytes that are decoded start with a complete form. -/
theorem exists_bytes_append {symbols : Symbols} {offset : Nat} {opcode : UInt8}
    {operands : List UInt8} {result : List Step}
    (decoded : steps symbols offset (opcode :: operands) = .ok result) :
    ∃ (form : Form) (rest : List UInt8),
      form.Complete offset ∧ opcode :: operands = form.bytes ++ rest := by
  rw [steps] at decoded
  obtain ⟨size, measured, decoded⟩ := bind_eq_ok_iff.mp decoded
  split at decoded
  · cases decoded
  rename_i enough
  have long : size ≤ operands.length + 1 := by
    simp only [List.length_take] at enough
    omega
  obtain ⟨form, rest, complete, rfl, rfl⟩ := exists_form measured long
  exact ⟨form, rest, complete, rfl⟩

/-! ## All steps -/

/-- The forms from `offset` on are read as the given steps, one by one. -/
def ReadsAs (symbols : Symbols) (offset : Nat) (forms : List Form) (result : List Step) : Prop :=
  List.Forall₂ (fun place step => place.2.ReadAs symbols place.1 step) (placed offset forms) result

/-- Every form of the body has been read as a step. -/
theorem ReadsAs.exists_readAs {symbols : Symbols} {offset : Nat} {forms : List Form}
    {result : List Step} (readsAs : ReadsAs symbols offset forms result) {place : Nat × Form}
    (member : place ∈ placed offset forms) :
    ∃ step ∈ result, place.2.ReadAs symbols place.1 step :=
  exists_of_forall₂ readsAs member

/-- Every step has been read from a form of the body. -/
theorem ReadsAs.exists_place {symbols : Symbols} {offset : Nat} {forms : List Form}
    {result : List Step} (readsAs : ReadsAs symbols offset forms result) {step : Step}
    (member : step ∈ result) :
    ∃ place ∈ placed offset forms, place.2.ReadAs symbols place.1 step :=
  exists_of_forall₂ (List.Forall₂.flip readsAs) member

/-- Decoding succeeds exactly on what is written as forms that can be read. -/
theorem steps_eq_ok_iff {symbols : Symbols} {offset : Nat} {code : List UInt8}
    {result : List Step} :
    steps symbols offset code = .ok result ↔
      ∃ forms, written forms = code ∧ ReadsAs symbols offset forms result := by
  constructor
  · intro decoded
    induction offset, code using steps.induct generalizing result with
    | case1 offset =>
        rw [steps] at decoded
        cases decoded
        exact ⟨[], rfl, .nil⟩
    | case2 offset opcode operands ih =>
        obtain ⟨form, rest, complete, same⟩ := exists_bytes_append decoded
        rw [same] at decoded
        obtain ⟨step, following, readAs, goesOn, rfl⟩ := (steps_form_iff complete _ _).mp decoded
        -- The recursion drops as many operands as the form has.
        have others : operands.drop (form.size - 1) = rest := by
          cases same
          exact List.drop_left
        rw [← others] at goesOn
        obtain ⟨forms, whole, readsAs⟩ := ih form.size goesOn
        refine ⟨form :: forms, ?_, .cons readAs readsAs⟩
        rw [same, ← others, ← whole]
        rfl
  · rintro ⟨forms, rfl, readsAs⟩
    induction forms generalizing offset result with
    | nil =>
        cases readsAs
        rw [written, List.flatMap_nil, steps]
    | cons form forms ih =>
        cases readsAs with
        | cons readAs readsAs =>
            exact (steps_form_iff readAs.complete _ _).mpr ⟨_, _, readAs, ih readsAs, rfl⟩

end GrantSurvey.ClassFile.Bytecode
