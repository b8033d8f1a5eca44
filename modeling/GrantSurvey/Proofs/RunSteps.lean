import GrantSurvey.Proofs.Outcome
import GrantSurvey.Run

/-!
# Steps of a run

A step leaves a world behind, also when it fails. Some steps touch neither the files nor the
standard output, some touch them only when they succeed, and some never fail. Steps of the first
sort, then one of the second, then steps of the third make a sequence that has no effect if it fails.
-/

namespace GrantSurvey.Run

variable {α β : Type}

def result (step : Step α) (world : World) : Except Fault α × World :=
  step.run.run world

section Sequences

variable {step : Step α} {next : α → Step β} {world middle : World}

theorem result_bind_ok {value : α} (first : result step world = (.ok value, middle)) :
    result (step >>= next) world = result (next value) middle := by
  unfold result at first ⊢
  rw [ExceptT.run_bind, StateT.run_bind, first]
  rfl

theorem result_bind_error {fault : Fault} (first : result step world = (.error fault, middle)) :
    result (step >>= next) world = (.error fault, middle) := by
  unfold result at first ⊢
  rw [ExceptT.run_bind, StateT.run_bind, first]
  rfl

theorem result_bind_eq_ok_iff {value : β} {after : World} :
    result (step >>= next) world = (.ok value, after) ↔
      ∃ first middle, result step world = (.ok first, middle) ∧
        result (next first) middle = (.ok value, after) := by
  cases runs : result step world with
  | mk outcome middle =>
      cases outcome with
      | error fault => simp [result_bind_error runs]
      | ok first => simp [result_bind_ok runs]

/-- A last step that cannot fail leaves the outcome alone. -/
theorem result_endingWith {last : Step Unit} {outcome : Except Fault α} {after : World}
    (first : result step world = (outcome, middle)) (ends : result last middle = (.ok (), after)) :
    result (endingWith last step) world = (outcome, after) := by
  have lifted : result (ExceptT.lift step.run) world = (.ok outcome, middle) := by
    unfold result at first ⊢
    rw [ExceptT.run_lift, StateT.run_map, first]
    rfl
  rw [endingWith, result_bind_ok lifted, result_bind_ok ends]
  rfl

theorem endingWith_eq_ok_iff {last : Step Unit} {value : α} {final : World → World}
    {after : World} (ends : ∀ middle, result last middle = (.ok (), final middle)) :
    result (endingWith last step) world = (.ok value, after) ↔
      ∃ middle, result step world = (.ok value, middle) ∧ after = final middle := by
  cases runs : result step world with
  | mk outcome middle =>
      rw [result_endingWith runs (ends middle)]
      simp only [Prod.mk.injEq]
      constructor
      · rintro ⟨rfl, rfl⟩
        exact ⟨middle, ⟨rfl, rfl⟩, rfl⟩
      · rintro ⟨_, ⟨rfl, rfl⟩, rfl⟩
        exact ⟨rfl, rfl⟩

end Sequences

/-! ## Effects -/

structure Untouched (before after : World) : Prop where
  system : after.system = before.system
  stdout : after.stdout = before.stdout

theorem Untouched.trans {first second third : World} (before : Untouched first second)
    (after : Untouched second third) : Untouched first third :=
  ⟨after.system.trans before.system, after.stdout.trans before.stdout⟩

/-- A step that touches neither the files nor the standard output. -/
def Quiet (step : Step α) : Prop :=
  ∀ world, Untouched world (result step world).2

/-- A step that touches the files or the standard output only if it succeeds. -/
def FailsQuietly (step : Step α) : Prop :=
  ∀ world fault after, result step world = (.error fault, after) → Untouched world after

def Sure (step : Step α) : Prop :=
  ∀ world, ∃ value after, result step world = (.ok value, after)

section Effects

variable {step : Step α} {next : α → Step β}

/-- What comes after quiet steps decides whether a failure has effects. -/
theorem Quiet.bind (quiet : Quiet step) (later : ∀ value, FailsQuietly (next value)) :
    FailsQuietly (step >>= next) := by
  intro world fault after fails
  have untouched := quiet world
  cases runs : result step world with
  | mk outcome middle =>
      rw [runs] at untouched
      cases outcome with
      | error other =>
          rw [result_bind_error runs] at fails
          cases fails
          exact untouched
      | ok value =>
          rw [result_bind_ok runs] at fails
          exact untouched.trans (later value middle fault after fails)

/-- Steps that never fail may do anything after a step that fails quietly. -/
theorem FailsQuietly.bind (first : FailsQuietly step) (later : ∀ value, Sure (next value)) :
    FailsQuietly (step >>= next) := by
  intro world fault after fails
  cases runs : result step world with
  | mk outcome middle =>
      cases outcome with
      | error other =>
          rw [result_bind_error runs] at fails
          cases fails
          exact first world fault after runs
      | ok value =>
          rw [result_bind_ok runs] at fails
          obtain ⟨last, final, succeeds⟩ := later value middle
          rw [succeeds] at fails
          cases fails

theorem FailsQuietly.endingWith {last : Step Unit} (first : FailsQuietly step) (quiet : Quiet last)
    (sure : Sure last) : FailsQuietly (endingWith last step) := by
  intro world fault after fails
  cases runs : result step world with
  | mk outcome middle =>
      obtain ⟨⟨⟩, closed, ends⟩ := sure middle
      rw [result_endingWith runs ends] at fails
      cases fails
      have untouched := quiet middle
      rw [ends] at untouched
      exact (first world fault middle runs).trans untouched

end Effects

/-! ## The steps of a run -/

theorem result_consult (look : FileSystem → Except Fault α) (world : World) :
    result (consult look) world = (look world.system, world) := rfl

theorem quiet_consult (look : FileSystem → Except Fault α) : Quiet (consult look) :=
  fun _ => ⟨rfl, rfl⟩

theorem consult_eq_ok_iff {look : FileSystem → Except Fault α} {value : α} {world after : World} :
    result (consult look) world = (.ok value, after) ↔
      look world.system = .ok value ∧ after = world := by
  rw [result_consult, Prod.mk.injEq, eq_comm (a := world)]

theorem result_note (text : String) (world : World) :
    result (note text) world = (.ok (), { world with stderr := world.stderr ++ text }) := rfl

theorem quiet_note (text : String) : Quiet (note text) :=
  fun _ => ⟨rfl, rfl⟩

theorem sure_note (text : String) : Sure (note text) :=
  fun _ => ⟨_, _, rfl⟩

theorem quiet_settle (settling : α → Except Fault Unit) (value : Option α) :
    Quiet (settle settling value) := by
  intro world
  cases value <;> exact ⟨rfl, rfl⟩

theorem settle_eq_ok_iff {settling : α → Except Fault Unit} {value : Option α}
    {world after : World} :
    result (settle settling value) world = (.ok (), after) ↔
      (∀ given, value = some given → settling given = .ok ()) ∧ after = world := by
  cases value with
  | none =>
      change (Except.ok (), world) = (Except.ok (), after) ↔ _
      simp [eq_comm]
  | some given =>
      change (settling given, world) = (Except.ok (), after) ↔ _
      simp [eq_comm]

theorem result_emit_standard (text : String) (world : World) :
    result (Sink.standard.emit text) world =
      (.ok (), { world with stdout := world.stdout ++ text }) := rfl

theorem result_emit_file (place : List String) (text : String) (world : World) :
    result ((Sink.file place).emit text) world =
      (.ok (), { world with system := world.system.append place (Utf8.bytes text) }) := rfl

theorem sure_emit (sink : Sink) (text : String) : Sure (sink.emit text) := by
  intro world
  cases sink <;> exact ⟨_, _, rfl⟩

section Output

variable {path : String} {world : World}

theorem result_openOutput_dash (dash : Path.isName "-" path = true) :
    result (openOutput (some path)) world = (.ok .standard, world) := by
  simp only [openOutput, dash, if_true]
  rfl

theorem result_openOutput_ok (proper : Path.isName "-" path = false) {place : List String}
    {system : FileSystem} (creates : world.system.create path = .ok (place, system)) :
    result (openOutput (some path)) world = (.ok (.file place), { world with system }) := by
  have creating : result (consult fun system => (system.create path).mapError (.output path)) world
      = (.ok (place, system), world) := by
    rw [result_consult, creates]
    rfl
  simp only [openOutput, proper, Bool.false_eq_true, if_false]
  rw [result_bind_ok creating]
  rfl

theorem result_openOutput_error (proper : Path.isName "-" path = false) {fault : FileSystem.Fault}
    (refuses : world.system.create path = .error fault) :
    result (openOutput (some path)) world = (.error (.output path fault), world) := by
  have creating : result (consult fun system => (system.create path).mapError (.output path)) world
      = (.error (.output path fault), world) := by
    rw [result_consult, refuses]
    rfl
  simp only [openOutput, proper, Bool.false_eq_true, if_false]
  rw [result_bind_error creating]

end Output

/-- Opening the output changes nothing if it fails. -/
theorem failsQuietly_openOutput (output : Option String) : FailsQuietly (openOutput output) := by
  intro world fault after fails
  cases output with
  | none => cases fails
  | some path =>
      cases dash : Path.isName "-" path with
      | true =>
          rw [result_openOutput_dash dash] at fails
          cases fails
      | false =>
          cases creates : world.system.create path with
          | error cause =>
              rw [result_openOutput_error dash creates] at fails
              cases fails
              exact ⟨rfl, rfl⟩
          | ok opened =>
              rw [result_openOutput_ok dash creates] at fails
              cases fails

end GrantSurvey.Run
