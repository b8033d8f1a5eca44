import GrantSurvey.ClassFile.Fault
import Mathlib.Data.List.Forall2

/-!
# Computations that may fail

When a sequence of steps, each of which may fail, succeeds as a whole.
-/

namespace GrantSurvey.Outcome

variable {ε α β : Type}

@[simp]
theorem pure_eq_ok (value : α) : (pure value : Except ε α) = .ok value := rfl

@[simp]
theorem ok_bind (value : α) (next : α → Except ε β) :
    ((Except.ok value : Except ε α) >>= next) = next value := rfl

theorem isOk_iff {result : Except ε α} : result.isOk = true ↔ ∃ value, result = .ok value := by
  cases result <;> simp [Except.isOk, Except.toBool]

/-- Two steps in a row succeed when both of them do. -/
theorem bind_eq_ok_iff {first : Except ε α} {next : α → Except ε β} {result : β} :
    (first >>= next) = .ok result ↔ ∃ value, first = .ok value ∧ next value = .ok result := by
  cases first with
  | error cause =>
      constructor
      · intro impossible; cases impossible
      · rintro ⟨value, impossible, _⟩; cases impossible
  | ok value =>
      constructor
      · intro succeeds
        exact ⟨value, rfl, succeeds⟩
      · rintro ⟨value', same, succeeds⟩
        cases same
        exact succeeds

theorem mapError_eq_ok_iff {δ : Type} {result : Except ε α} {f : ε → δ} {value : α} :
    result.mapError f = .ok value ↔ result = .ok value := by
  cases result <;> simp [Except.mapError]

/-- A check of each value succeeds when it does so on all of them. -/
theorem forM_eq_ok_iff {f : α → Except ε Unit} {values : List α} :
    values.forM f = .ok () ↔ ∀ value ∈ values, f value = .ok () := by
  induction values with
  | nil => simp [List.forM]
  | cons value values ih =>
      rw [List.forM, bind_eq_ok_iff, List.forall_mem_cons, ← ih]
      constructor
      · rintro ⟨⟨⟩, first, others⟩
        exact ⟨first, others⟩
      · rintro ⟨first, others⟩
        exact ⟨(), first, others⟩

/-- A step that always succeeds. -/
theorem mapM_ok (f : α → β) (values : List α) :
    values.mapM (fun value => (.ok (f value) : Except ε β)) = .ok (values.map f) := by
  induction values with
  | nil => rfl
  | cons value values ih => rw [List.mapM_cons, ih]; rfl

/-- A step that succeeds on each value with a result that is known. -/
theorem mapM_of_forall₂ {γ : Type} {f : α → Except ε β} {g : γ → β} {values : List α}
    {results : List γ} (known : List.Forall₂ (fun value result => f value = .ok (g result)) values
      results) :
    values.mapM f = .ok (results.map g) := by
  induction known with
  | nil => rfl
  | cons first others ih =>
      rw [List.mapM_cons, first, ih]
      rfl

theorem mapM_ok_of_forall₂ {f : α → Except ε β} {values : List α} {results : List β}
    (known : List.Forall₂ (fun value result => f value = .ok result) values results) :
    values.mapM f = .ok results := by
  rw [mapM_of_forall₂ (g := id) known, List.map_id]

theorem mapM_cons_eq_ok_iff {f : α → Except ε β} {value : α} {values : List α}
    {results : List β} :
    (value :: values).mapM f = .ok results ↔
      ∃ first others, f value = .ok first ∧ values.mapM f = .ok others ∧
        results = first :: others := by
  simp only [List.mapM_cons, bind_eq_ok_iff, pure_eq_ok, Except.ok.injEq]
  constructor
  · rintro ⟨first, found, others, rest, rfl⟩
    exact ⟨first, others, found, rest, rfl⟩
  · rintro ⟨first, others, found, rest, rfl⟩
    exact ⟨first, found, others, rest, rfl⟩

theorem mapM_congr_forall₂ {γ : Type} {f : α → Except ε γ} {g : β → Except ε γ} {values : List α}
    {others : List β} (same : List.Forall₂ (fun value other => f value = g other) values others) :
    values.mapM f = others.mapM g := by
  induction same with
  | nil => rfl
  | cons first rest ih => rw [List.mapM_cons, List.mapM_cons, first, ih]

/-- A step that succeeds with `g` on the `good` values succeeds on a list when all its elements are
good. -/
theorem mapM_eq_ok_iff {f : α → Except ε β} {g : α → β} {good : α → Prop}
    (spec : ∀ value result, f value = .ok result ↔ good value ∧ g value = result)
    (values : List α) (results : List β) :
    values.mapM f = .ok results ↔ (∀ value ∈ values, good value) ∧ values.map g = results := by
  induction values generalizing results with
  | nil => simp [eq_comm]
  | cons value values ih =>
      simp only [List.mapM_cons, bind_eq_ok_iff, pure_eq_ok, spec, ih, List.mem_cons,
        forall_eq_or_imp, List.map_cons, Except.ok.injEq]
      constructor
      · rintro ⟨_, ⟨first, rfl⟩, _, ⟨others, rfl⟩, rfl⟩
        exact ⟨⟨first, others⟩, rfl⟩
      · rintro ⟨⟨first, others⟩, rfl⟩
        exact ⟨_, ⟨first, rfl⟩, _, ⟨others, rfl⟩, rfl⟩

/-- A step that fails on the `bad` values, always for the same cause, fails on a list when one of
its elements is bad. -/
theorem mapM_eq_error_iff {f : α → Except ε β} {bad : α → Prop} {cause : ε} {values : List α}
    (spec : ∀ value ∈ values, ∀ fault, f value = .error fault ↔ fault = cause ∧ bad value)
    (fault : ε) :
    values.mapM f = .error fault ↔ fault = cause ∧ ∃ value ∈ values, bad value := by
  induction values with
  | nil => simp
  | cons value values ih =>
      obtain ⟨here, later⟩ := List.forall_mem_cons.mp spec
      rw [List.mapM_cons]
      cases first : f value with
      | error other =>
          obtain ⟨rfl, isBad⟩ := (here other).mp first
          constructor
          · intro failed
            cases failed
            exact ⟨rfl, value, List.mem_cons_self, isBad⟩
          · rintro ⟨rfl, -⟩
            rfl
      | ok result =>
          have good : ¬bad value := by
            intro isBad
            cases first.symm.trans ((here cause).mpr ⟨rfl, isBad⟩)
          have others : ((values.mapM f >>= fun results => pure (result :: results)) =
              .error fault) ↔ values.mapM f = .error fault := by
            cases values.mapM f with
            | error other => exact Iff.rfl
            | ok results => simp
          rw [ok_bind, others, ih later]
          simp [good]

/-- A step that may find nothing finds something on each value of a list. -/
theorem mapM_eq_some_iff {f : α → Option β} {values : List α} {results : List β} :
    values.mapM f = some results ↔
      List.Forall₂ (fun value result => f value = some result) values results := by
  induction values generalizing results with
  | nil =>
      rw [List.mapM_nil, List.forall₂_nil_left_iff]
      exact Option.some_inj.trans eq_comm
  | cons value values ih =>
      rw [List.mapM_cons, List.forall₂_cons_left_iff]
      simp only [Option.bind_eq_bind, Option.bind_eq_some_iff, ih, Option.pure_def,
        Option.some_inj]
      constructor
      · rintro ⟨first, found, others, rest, rfl⟩
        exact ⟨first, others, found, rest, rfl⟩
      · rintro ⟨first, others, found, rest, rfl⟩
        exact ⟨first, found, others, rest, rfl⟩

/-- What belongs to one of two lists belongs with something of the other. -/
theorem exists_of_forall₂ {R : α → β → Prop} {firsts : List α} {seconds : List β}
    (related : List.Forall₂ R firsts seconds) {first : α} (member : first ∈ firsts) :
    ∃ second ∈ seconds, R first second := by
  induction related with
  | nil => cases member
  | cons head _ ih =>
      rcases List.mem_cons.mp member with rfl | member
      · exact ⟨_, List.mem_cons_self, head⟩
      · obtain ⟨second, inside, relates⟩ := ih member
        exact ⟨second, List.mem_cons_of_mem _ inside, relates⟩

/-- Two lists stay related if what relates their elements is replaced, element by element. -/
theorem forall₂_of_mem {R S : α → β → Prop} {firsts : List α} {seconds : List β}
    (related : List.Forall₂ R firsts seconds)
    (replaced : ∀ first ∈ firsts, ∀ second, R first second → S first second) :
    List.Forall₂ S firsts seconds := by
  induction related with
  | nil => exact .nil
  | cons head _ ih =>
      obtain ⟨first, others⟩ := List.forall_mem_cons.mp replaced
      exact .cons (first _ head) (ih others)

/-- Each result stems from one of the values. -/
theorem exists_of_mem_mapM {f : α → Option β} {values : List α} {results : List β}
    (found : values.mapM f = some results) {result : β} (member : result ∈ results) :
    ∃ value ∈ values, f value = some result :=
  exists_of_forall₂ (mapM_eq_some_iff.mp found).flip member

/-- A step that may find nothing, on a list of values of which one has nothing. -/
theorem mapM_eq_none_iff {f : α → Option β} {values : List α} :
    values.mapM f = none ↔ ∃ value ∈ values, f value = none := by
  induction values with
  | nil => simp
  | cons value values ih =>
      rw [List.mapM_cons]
      cases found : f value with
      | none => simp [found]
      | some first =>
          simp only [Option.bind_eq_bind, Option.bind_some, List.mem_cons, exists_eq_or_imp, found,
            reduceCtorEq, false_or, ← ih]
          cases values.mapM f <;> simp

/-! ## Computations that succeed alike -/

/-- Two computations succeed with the same value, or both fail. -/
def Alike (first second : Except ε α) : Prop :=
  ∀ value, first = .ok value ↔ second = .ok value

theorem Alike.refl (result : Except ε α) : Alike result result :=
  fun _ => Iff.rfl

theorem alike_error (first second : ε) : Alike (.error first : Except ε α) (.error second) :=
  fun _ => ⟨nofun, nofun⟩

/-- It makes no difference when a failure shows. -/
theorem alike_bind_error (cause other : ε) (first : Except ε α) :
    Alike (.error cause : Except ε β) (first >>= fun _ => .error other) := by
  cases first with
  | error before => exact alike_error cause before
  | ok value => exact alike_error cause other

theorem Alike.bind {first second : Except ε α} {next other : α → Except ε β}
    (alike : Alike first second)
    (nexts : ∀ value, first = .ok value → Alike (next value) (other value)) :
    Alike (first >>= next) (second >>= other) := by
  intro result
  simp only [bind_eq_ok_iff]
  constructor
  · rintro ⟨value, succeeds, final⟩
    exact ⟨value, (alike value).mp succeeds, (nexts value succeeds result).mp final⟩
  · rintro ⟨value, succeeds, final⟩
    have before := (alike value).mpr succeeds
    exact ⟨value, before, (nexts value before result).mpr final⟩

/-- Values that belong together are treated alike in a row. -/
theorem Alike.mapM {γ : Type} {f : α → Except ε γ} {g : β → Except ε γ} {firsts : List α}
    {seconds : List β} (alike : List.Forall₂ (fun first second => Alike (f first) (g second))
      firsts seconds) :
    Alike (firsts.mapM f) (seconds.mapM g) := by
  induction alike with
  | nil => exact Alike.refl _
  | cons first others ih =>
      rw [List.mapM_cons, List.mapM_cons]
      exact first.bind fun value _ => ih.bind fun values _ => Alike.refl _

/-! ## Computations that succeed where others do -/

/-- Where the first computation succeeds, the second succeeds with the same value. -/
def CoveredBy (first second : Except ε α) : Prop :=
  ∀ value, first = .ok value → second = .ok value

theorem CoveredBy.refl (result : Except ε α) : CoveredBy result result :=
  fun _ => id

theorem Alike.coveredBy {first second : Except ε α} (alike : Alike first second) :
    CoveredBy first second :=
  fun value => (alike value).mp

theorem Alike.coveredBy_symm {first second : Except ε α} (alike : Alike first second) :
    CoveredBy second first :=
  fun value => (alike value).mpr

theorem CoveredBy.bind {first second : Except ε α} {next other : α → Except ε β}
    (covered : CoveredBy first second)
    (nexts : ∀ value, first = .ok value → CoveredBy (next value) (other value)) :
    CoveredBy (first >>= next) (second >>= other) := by
  intro result succeeds
  obtain ⟨value, before, final⟩ := bind_eq_ok_iff.mp succeeds
  exact bind_eq_ok_iff.mpr ⟨value, covered value before, nexts value before result final⟩

theorem CoveredBy.map {first second : Except ε α} (covered : CoveredBy first second)
    (f : α → β) : CoveredBy (f <$> first) (f <$> second) := by
  cases first with
  | error cause => exact nofun
  | ok value =>
      rw [covered value rfl]
      exact CoveredBy.refl _

/-- Values that belong together are covered in a row. -/
theorem CoveredBy.mapM {γ : Type} {f : α → Except ε γ} {g : β → Except ε γ} {firsts : List α}
    {seconds : List β} (covered : List.Forall₂ (fun first second => CoveredBy (f first) (g second))
      firsts seconds) :
    CoveredBy (firsts.mapM f) (seconds.mapM g) := by
  induction covered with
  | nil => exact CoveredBy.refl _
  | cons first others ih =>
      rw [List.mapM_cons, List.mapM_cons]
      exact first.bind fun value _ => ih.bind fun values _ => CoveredBy.refl _

theorem coveredBy_ite {condition : Prop} [Decidable condition]
    {first second first' second' : Except ε α} (holds : CoveredBy first second)
    (fails : CoveredBy first' second') :
    CoveredBy (if condition then first else first') (if condition then second else second') := by
  split
  · exact holds
  · exact fails

end GrantSurvey.Outcome

namespace GrantSurvey.ClassFile

/-- Naming a place changes failures only. -/
@[simp]
theorem inPlace_eq_ok_iff {α : Type} {place : Place} {result : Except Fault α} {value : α} :
    inPlace place result = .ok value ↔ result = .ok value := by
  cases result <;> simp [inPlace]

theorem inPlace_alike {α : Type} {first second : Except Fault α}
    (alike : Outcome.Alike first second) (place : Place) :
    Outcome.Alike (inPlace place first) second := by
  intro value
  rw [inPlace_eq_ok_iff]
  exact alike value

theorem alike_inPlace {α : Type} {first second : Except Fault α}
    (alike : Outcome.Alike first second) (place other : Place) :
    Outcome.Alike (inPlace place first) (inPlace other second) := by
  intro value
  rw [inPlace_eq_ok_iff, inPlace_eq_ok_iff]
  exact alike value

theorem coveredBy_inPlace {α : Type} {first second : Except Fault α}
    (covered : Outcome.CoveredBy first second) (place other : Place) :
    Outcome.CoveredBy (inPlace place first) (inPlace other second) := by
  intro value
  rw [inPlace_eq_ok_iff, inPlace_eq_ok_iff]
  exact covered value

end GrantSurvey.ClassFile
