import GrantSurvey.Proofs.FileTree
import GrantSurvey.Proofs.ReferenceGraph
import GrantSurvey.Proofs.RulebookContents
import GrantSurvey.Proofs.RunSteps

/-!
# What a run leaves behind

A run that fails leaves the file system as it was and the standard output empty. A run that succeeds
delivers its report, to the standard output or into one file. Whether it succeeds is settled before
anything is scanned: by the paths that there are, by the argument files, by the rulebooks and by the
machine.
-/

namespace GrantSurvey.Run

open CommandLine

/-! ## Failing runs -/

theorem failsQuietly_deliver (output : Option String) (text : String) :
    FailsQuietly (deliver output text) :=
  (failsQuietly_openOutput output).bind fun sink => sure_emit sink text

/-- A survey has effects from the delivery on, and nothing fails after it. -/
theorem failsQuietly_survey (machine : Machine) (trace : String) (request : Request)
    (inputs : Inputs) : FailsQuietly (survey machine trace request inputs) := by
  refine (quiet_note _).bind fun _ => ?_
  refine (quiet_consult _).bind fun report => ?_
  exact (failsQuietly_deliver _ _).bind fun _ => sure_note _

/-- No step fails after one that had an effect. -/
theorem failsQuietly_steps (machine : Machine) (trace : String) (request : Request) :
    FailsQuietly (steps machine trace request) := by
  refine (quiet_consult _).bind fun inputs => ?_
  refine (quiet_settle _ _).bind fun _ => ?_
  refine (quiet_settle _ _).bind fun _ => ?_
  exact (failsQuietly_survey machine trace request inputs).endingWith (quiet_note _) (sure_note _)

/-! ## Deliveries -/

/-- Was a text delivered: to the standard output, with all files as they were, or into the one file
that the output names? -/
inductive Delivered (system : FileSystem) (output : Option String) (text : String) :
    (stdout : String) → FileSystem → Prop where
  | standard (dash : ∀ path, output = some path → Path.isName "-" path = true) :
      Delivered system output text text system
  | file {path : String} {place : List String} {after : FileSystem} (names : output = some path)
      (proper : Path.isName "-" path = false)
      (written : FileSystem.Written system after path (Utf8.bytes text) place) :
      Delivered system output text "" after

theorem delivered_of_deliver {output : Option String} {text notes : String} {system : FileSystem}
    {after : World} (delivers : result (deliver output text) ⟨system, "", notes⟩ = (.ok (), after)) :
    Delivered system output text after.stdout after.system := by
  have printed (dash : ∀ path, output = some path → Path.isName "-" path = true)
      (emits : result (Sink.standard.emit text) ⟨system, "", notes⟩ = (.ok (), after)) :
      Delivered system output text after.stdout after.system := by
    rw [result_emit_standard, String.empty_append] at emits
    cases emits
    exact .standard dash
  obtain ⟨sink, opened, opens, emits⟩ := result_bind_eq_ok_iff.mp delivers
  cases output with
  | none =>
      cases opens
      refine printed (fun path names => ?_) emits
      cases names
  | some path =>
      cases dash : Path.isName "-" path with
      | true =>
          rw [result_openOutput_dash dash] at opens
          cases opens
          refine printed (fun other same => ?_) emits
          cases same
          exact dash
      | false =>
          cases creates : system.create path with
          | error fault =>
              rw [result_openOutput_error dash creates] at opens
              cases opens
          | ok created =>
              rw [result_openOutput_ok dash creates] at opens
              cases opens
              rw [result_emit_file] at emits
              cases emits
              exact .file rfl dash (FileSystem.written_of_create creates (Utf8.bytes text))

/-- Whether a text can be delivered does not depend on the text. -/
theorem exists_deliver_iff (output : Option String) (text : String) (world : World) :
    (∃ after, result (deliver output text) world = (.ok (), after)) ↔
      ∀ path, output = some path → Path.isName "-" path = true ∨ world.system.Opens path := by
  have emitted (sink : Sink) (opened : World) :
      ∃ after, result (sink.emit text) opened = (.ok (), after) := by
    obtain ⟨⟨⟩, after, emits⟩ := sure_emit sink text opened
    exact ⟨after, emits⟩
  have opening : (∃ after, result (deliver output text) world = (.ok (), after)) ↔
      ∃ sink opened, result (openOutput output) world = (.ok sink, opened) := by
    constructor
    · rintro ⟨after, delivers⟩
      obtain ⟨sink, opened, opens, -⟩ := result_bind_eq_ok_iff.mp delivers
      exact ⟨sink, opened, opens⟩
    · rintro ⟨sink, opened, opens⟩
      obtain ⟨after, emits⟩ := emitted sink opened
      exact ⟨after, result_bind_eq_ok_iff.mpr ⟨sink, opened, opens, emits⟩⟩
  rw [opening]
  cases output with
  | none =>
      have standard : result (openOutput none) world = (.ok .standard, world) := rfl
      simp [standard]
  | some path =>
      simp only [Option.some.injEq, forall_eq']
      cases dash : Path.isName "-" path with
      | true => exact ⟨fun _ => .inl rfl, fun _ => ⟨_, _, result_openOutput_dash dash⟩⟩
      | false =>
          simp only [Bool.false_eq_true, false_or, ← FileSystem.exists_create_iff]
          cases creates : world.system.create path with
          | error fault => simp [result_openOutput_error dash creates]
          | ok created => simp [result_openOutput_ok dash creates]

/-! ## Runs that succeed -/

theorem survey_eq_ok_iff {machine : Machine} {trace : String} {request : Request} {inputs : Inputs}
    {system : FileSystem} {after : World} :
    result (survey machine trace request inputs) ⟨system, "", ""⟩ = (.ok (), after) ↔
      ∃ report written, Run.report system request inputs = .ok report ∧
        result (deliver request.output (report.text request.report))
          ⟨system, "", "" ++ traceNote trace request.collector⟩ = (.ok (), written) ∧
        after = { written with stderr := written.stderr ++
          if request.timing then machine.timing report else "" } := by
  constructor
  · intro succeeds
    obtain ⟨⟨⟩, noted, notes, reporting⟩ := result_bind_eq_ok_iff.mp succeeds
    cases notes
    obtain ⟨report, same, consults, delivery⟩ := result_bind_eq_ok_iff.mp reporting
    obtain ⟨reports, rfl⟩ := consult_eq_ok_iff.mp consults
    obtain ⟨⟨⟩, written, delivers, timing⟩ := result_bind_eq_ok_iff.mp delivery
    cases timing
    exact ⟨report, written, reports, delivers, rfl⟩
  · rintro ⟨report, written, reports, delivers, rfl⟩
    have consults : result (consult fun system => Run.report system request inputs)
        ⟨system, "", "" ++ traceNote trace request.collector⟩ = (.ok report, _) :=
      consult_eq_ok_iff.mpr ⟨reports, rfl⟩
    rw [survey, result_bind_ok (result_note _ _), result_bind_ok consults,
      result_bind_ok delivers, result_note]

theorem steps_eq_ok_iff {machine : Machine} {trace : String} {request : Request}
    {system : FileSystem} {after : World} :
    result (steps machine trace request) ⟨system, "", ""⟩ = (.ok (), after) ↔
      ∃ inputs surveyed, Run.inputs system request = .ok inputs ∧
        (∀ jobs, request.jobs = some jobs → machine.workers jobs = .ok ()) ∧
        (∀ address, request.collector = some address → Collector.check address = .ok ()) ∧
        result (survey machine trace request inputs) ⟨system, "", ""⟩ = (.ok (), surveyed) ∧
        after = { surveyed with stderr := surveyed.stderr ++
          if request.collector.isSome then machine.closing else "" } := by
  constructor
  · intro succeeds
    obtain ⟨inputs, first, consults, starting⟩ := result_bind_eq_ok_iff.mp succeeds
    obtain ⟨named, rfl⟩ := consult_eq_ok_iff.mp consults
    obtain ⟨⟨⟩, second, started, connecting⟩ := result_bind_eq_ok_iff.mp starting
    obtain ⟨starts, rfl⟩ := settle_eq_ok_iff.mp started
    obtain ⟨⟨⟩, third, connected, surveying⟩ := result_bind_eq_ok_iff.mp connecting
    obtain ⟨connects, rfl⟩ := settle_eq_ok_iff.mp connected
    obtain ⟨surveyed, surveys, rfl⟩ := (endingWith_eq_ok_iff fun _ => result_note _ _).mp surveying
    simp only [Outcome.mapError_eq_ok_iff] at starts connects
    exact ⟨inputs, surveyed, named, starts, connects, surveys, rfl⟩
  · rintro ⟨inputs, surveyed, named, starts, connects, surveys, rfl⟩
    have consults : result (consult fun system => Run.inputs system request) ⟨system, "", ""⟩ =
        (.ok inputs, _) := consult_eq_ok_iff.mpr ⟨named, rfl⟩
    have started : result (startWorkers machine request.jobs) ⟨system, "", ""⟩ = (.ok (), _) :=
      settle_eq_ok_iff.mpr
        ⟨fun jobs given => Outcome.mapError_eq_ok_iff.mpr (starts jobs given), rfl⟩
    have connected : result (connect request.collector) ⟨system, "", ""⟩ = (.ok (), _) :=
      settle_eq_ok_iff.mpr
        ⟨fun address given => Outcome.mapError_eq_ok_iff.mpr (connects address given), rfl⟩
    rw [steps, result_bind_ok consults, result_bind_ok started, result_bind_ok connected]
    exact (endingWith_eq_ok_iff fun _ => result_note _ _).mpr ⟨surveyed, surveys, rfl⟩

/-- All that a run needs: its inputs, its workers, an address of its collector, its rulebooks and an
output. -/
structure Ready (machine : Machine) (system : FileSystem) (request : Request) : Prop where
  inputs : ∃ inputs, Run.inputs system request = .ok inputs
  workers : ∀ jobs, request.jobs = some jobs → machine.workers jobs = .ok ()
  collector : ∀ address, request.collector = some address → Collector.check address = .ok ()
  rulebooks : ∃ book, Rulebook.extended system .builtin request.rulebooks = .ok book
  output : ∀ path, request.output = some path → Path.isName "-" path = true ∨ system.Opens path

theorem report_eq_ok_iff {system : FileSystem} {request : Request} {inputs : Inputs}
    {found : ProjectReport} :
    Run.report system request inputs = .ok found ↔
      ∃ book, Rulebook.extended system .builtin request.rulebooks = .ok book ∧
        found = examineProject (Artifact.examine book system) inputs.project inputs.dependencies
          request.includeTests := by
  rw [Run.report, Outcome.bind_eq_ok_iff]
  simp only [Outcome.mapError_eq_ok_iff, Outcome.pure_eq_ok, Except.ok.injEq, eq_comm (a := found)]

/-- Inputs of any content are reported on, once there is a rulebook. -/
theorem exists_report_iff (system : FileSystem) (request : Request) (inputs : Inputs) :
    (∃ report, Run.report system request inputs = .ok report) ↔
      ∃ book, Rulebook.extended system .builtin request.rulebooks = .ok book := by
  simp only [report_eq_ok_iff]
  constructor
  · rintro ⟨_, book, merges, _⟩
    exact ⟨book, merges⟩
  · rintro ⟨book, merges⟩
    exact ⟨_, book, merges, rfl⟩

/-- What is known of attainable rulebooks holds of the one that a report was made with. -/
theorem exists_attainable_of_report {system : FileSystem} {request : Request} {inputs : Inputs}
    {found : ProjectReport} (reports : Run.report system request inputs = .ok found) :
    ∃ book : Rulebook, book.Attainable ∧
      found = examineProject (Artifact.examine book system) inputs.project inputs.dependencies
        request.includeTests := by
  obtain ⟨book, merges, same⟩ := report_eq_ok_iff.mp reports
  exact ⟨book, Rulebook.Attainable.builtin.extended merges, same⟩

/-- A run that has all it needs succeeds, and no other run does. -/
theorem exists_steps_iff (machine : Machine) (trace : String) (system : FileSystem)
    (request : Request) :
    (∃ after, result (steps machine trace request) ⟨system, "", ""⟩ = (.ok (), after)) ↔
      Ready machine system request := by
  constructor
  · rintro ⟨after, succeeds⟩
    obtain ⟨inputs, surveyed, named, starts, connects, surveys, -⟩ := steps_eq_ok_iff.mp succeeds
    obtain ⟨report, written, reports, delivers, -⟩ := survey_eq_ok_iff.mp surveys
    exact ⟨⟨inputs, named⟩, starts, connects,
      (exists_report_iff system request inputs).mp ⟨report, reports⟩,
      (exists_deliver_iff _ _ _).mp ⟨written, delivers⟩⟩
  · rintro ⟨⟨inputs, named⟩, starts, connects, rulebooks, output⟩
    obtain ⟨report, reports⟩ := (exists_report_iff system request inputs).mpr rulebooks
    obtain ⟨written, delivers⟩ := (exists_deliver_iff request.output (report.text request.report)
      ⟨system, "", "" ++ traceNote trace request.collector⟩).mpr output
    obtain ⟨surveyed, surveys⟩ : ∃ surveyed,
        result (survey machine trace request inputs) ⟨system, "", ""⟩ = (.ok (), surveyed) :=
      ⟨_, survey_eq_ok_iff.mpr ⟨report, written, reports, delivers, rfl⟩⟩
    exact ⟨_, steps_eq_ok_iff.mpr ⟨inputs, surveyed, named, starts, connects, surveys, rfl⟩⟩

/-- The report of a run that succeeds was delivered. -/
theorem delivered_of_steps {machine : Machine} {trace : String} {system : FileSystem}
    {request : Request} {after : World}
    (succeeds : result (steps machine trace request) ⟨system, "", ""⟩ = (.ok (), after)) :
    ∃ inputs report, Run.inputs system request = .ok inputs ∧
      Run.report system request inputs = .ok report ∧
      Delivered system request.output (report.text request.report) after.stdout after.system := by
  obtain ⟨inputs, surveyed, named, -, -, surveys, rfl⟩ := steps_eq_ok_iff.mp succeeds
  obtain ⟨report, written, reports, delivers, rfl⟩ := survey_eq_ok_iff.mp surveys
  have delivered := delivered_of_deliver delivers
  exact ⟨inputs, report, named, reports, delivered⟩

/-! ## Outcomes -/

theorem perform_eq_outcome (machine : Machine) (trace : String) (system : FileSystem)
    (request : Request) :
    perform machine trace system request =
      outcome (result (steps machine trace request) ⟨system, "", ""⟩) := rfl

theorem exitCode_perform_eq_zero_iff (machine : Machine) (trace : String) (system : FileSystem)
    (request : Request) :
    (perform machine trace system request).exitCode = 0 ↔ Ready machine system request := by
  rw [perform_eq_outcome, ← exists_steps_iff machine trace]
  cases result (steps machine trace request) ⟨system, "", ""⟩ with
  | mk settled after => cases settled <;> simp [outcome]

theorem exitCode_perform_le_one (machine : Machine) (trace : String) (system : FileSystem)
    (request : Request) : (perform machine trace system request).exitCode ≤ 1 := by
  rw [perform_eq_outcome]
  cases result (steps machine trace request) ⟨system, "", ""⟩ with
  | mk settled after => cases settled <;> simp [outcome]

/-- One argument that is no reference stands for itself. -/
theorem paths_single (system : FileSystem) (switches role : String) (path : String)
    (plain : ArgumentFile.Item.ofArgument path = .path path) :
    paths system switches role [path] =
      if system.contains path then .ok [path] else .error (.missing role path) := by
  have expands : ArgumentFile.expand system system.workingDirectory [path] = .ok [path] := by
    rw [ArgumentFile.expand, ArgumentFile.TextSource.expand, List.map_singleton, plain,
      ArgumentFile.expandItems_path, ArgumentFile.expandItems]
    rfl
  rw [paths, expands]
  cases there : system.contains path with
  | false =>
      simp only [Except.mapError, Outcome.ok_bind, List.find?_singleton, there]
      rfl
  | true =>
      simp only [Except.mapError, Outcome.ok_bind, List.find?_singleton, there]
      rfl

theorem paths_nil (system : FileSystem) (switches role : String) :
    paths system switches role [] = .ok [] := by
  rw [paths, ArgumentFile.expand, ArgumentFile.TextSource.expand, List.map_nil,
    ArgumentFile.expandItems]
  rfl

/-! ## Settings -/

def inputArguments (request : Request) : List String :=
  request.project.toList ++ request.dependencies ++ request.testDependencies

/-- Is the file at a place read before anything is scanned: as a list of arguments, or as a
rulebook? -/
def Configures (system : FileSystem) (request : Request) (place : List String) : Prop :=
  ArgumentFile.Consulted (.ofSystem system) system.workingDirectory
      ((inputArguments request).map ArgumentFile.Item.ofArgument) place ∨
    ∃ path ∈ request.rulebooks, system.resolve path = .ok place

/-- Do two file systems differ at most in the bytes of files that are not read before anything is
scanned? -/
structure SameSetting (request : Request) (system other : FileSystem) : Prop
    extends FileSystem.SameKinds system other where
  contentAt : ∀ place, Configures system request place →
    other.root.contentAt place = system.root.contentAt place

section SameSetting

variable {request : Request} {system other : FileSystem}

theorem SameSetting.expand (same : SameSetting request system other) {arguments : List String}
    (named : arguments ⊆ inputArguments request) :
    ArgumentFile.expand other other.workingDirectory arguments =
      ArgumentFile.expand system system.workingDirectory arguments := by
  rw [FileSystem.workingDirectory, same.here]
  refine ArgumentFile.expandItems_eq_of_agree (funext same.resolve) [] _ fun place consulted => ?_
  refine FileSystem.textAt_eq_of_sameAt ⟨same.kindAt place, same.contentAt place (.inl ?_)⟩
  exact consulted.of_subset (List.map_subset _ named)

theorem SameSetting.paths (same : SameSetting request system other) (switches role : String)
    {arguments : List String} (named : arguments ⊆ inputArguments request) :
    paths other switches role arguments = paths system switches role arguments := by
  unfold Run.paths
  simp only [same.expand named, same.contains]

theorem SameSetting.projectOf (same : SameSetting request system other) :
    projectOf other request.project = projectOf system request.project := by
  cases project : request.project with
  | none => rfl
  | some argument =>
      have named : [argument] ⊆ inputArguments request := by
        simp [inputArguments, project]
      rw [Run.projectOf, Run.projectOf, same.paths _ _ named]

/-- The inputs of a run do not depend on the bytes of what is scanned. -/
theorem SameSetting.inputs (same : SameSetting request system other) :
    inputs other request = inputs system request := by
  have compile : request.dependencies ⊆ inputArguments request := by
    intro argument member
    simp [inputArguments, member]
  have test : request.testDependencies ⊆ inputArguments request := by
    intro argument member
    simp [inputArguments, member]
  unfold Run.inputs
  rw [same.projectOf, same.paths _ _ compile, same.paths _ _ test]

theorem extended_eq_of_agree (book : Rulebook) {paths : List String}
    (texts : ∀ path ∈ paths, other.readText path = system.readText path) :
    Rulebook.extended other book paths = Rulebook.extended system book paths := by
  unfold Rulebook.extended
  induction paths generalizing book with
  | nil => rfl
  | cons path paths ih =>
      rw [List.forall_mem_cons] at texts
      have first : Rulebook.loadFile other path = Rulebook.loadFile system path := by
        rw [Rulebook.loadFile, Rulebook.loadFile, texts.1]
      rw [List.foldlM_cons, List.foldlM_cons, first]
      refine bind_congr fun book => ?_
      exact ih book texts.2

theorem SameSetting.extended (same : SameSetting request system other) (book : Rulebook) :
    Rulebook.extended other book request.rulebooks =
      Rulebook.extended system book request.rulebooks := by
  refine extended_eq_of_agree book fun path member => same.readText fun place resolved => ?_
  exact same.contentAt place (.inr ⟨path, member, resolved⟩)

/-- Nothing that is scanned makes a difference to what a run needs. -/
theorem SameSetting.ready_iff (same : SameSetting request system other) (machine : Machine) :
    Ready machine other request ↔ Ready machine system request := by
  constructor
  · rintro ⟨inputs, workers, collector, rulebooks, output⟩
    rw [same.inputs] at inputs
    rw [same.extended] at rulebooks
    simp only [same.opens_iff] at output
    exact ⟨inputs, workers, collector, rulebooks, output⟩
  · rintro ⟨inputs, workers, collector, rulebooks, output⟩
    rw [← same.inputs] at inputs
    rw [← same.extended] at rulebooks
    simp only [← same.opens_iff] at output
    exact ⟨inputs, workers, collector, rulebooks, output⟩

end SameSetting

end GrantSurvey.Run

namespace GrantSurvey

open CommandLine

/-- A run succeeds if and only if it has all that it needs. Without that it prints no report and
changes no file; with it, the report goes to the standard output or into the one file that the
output names. The bytes of what is scanned make no difference to its exit code. -/
theorem run_delivers_or_changes_nothing (machine : Run.Machine) (trace : String)
    (system : FileSystem) (arguments : List String) (request : Request)
    (accepted : CommandLine.read arguments = .ok (.run request)) :
    ((run trace system arguments machine).exitCode = 0 ↔ Run.Ready machine system request) ∧
      ((run trace system arguments machine).exitCode ≠ 0 →
        (run trace system arguments machine).stdout = "" ∧
          (run trace system arguments machine).system = system) ∧
      ((run trace system arguments machine).exitCode = 0 →
        ∃ inputs report, Run.inputs system request = .ok inputs ∧
          Run.report system request inputs = .ok report ∧
          Run.Delivered system request.output (report.text request.report)
            (run trace system arguments machine).stdout
            (run trace system arguments machine).system) ∧
      ∀ other, Run.SameSetting request system other →
        (run trace other arguments machine).exitCode =
          (run trace system arguments machine).exitCode := by
  have runs : ∀ system, run trace system arguments machine =
      Run.perform machine trace system request := by
    intro system
    rw [run, accepted]
  simp only [runs]
  refine ⟨Run.exitCode_perform_eq_zero_iff machine trace system request, ?_, ?_, ?_⟩
  · intro fails
    rw [Run.perform_eq_outcome] at fails ⊢
    cases settled : Run.result (Run.steps machine trace request) ⟨system, "", ""⟩ with
    | mk outcome after =>
        rw [settled] at fails
        cases outcome with
        | ok _ => exact (fails rfl).elim
        | error fault =>
            have untouched := Run.failsQuietly_steps machine trace request _ fault after settled
            exact ⟨untouched.stdout, untouched.system⟩
  · intro succeeds
    rw [Run.perform_eq_outcome] at succeeds ⊢
    cases settled : Run.result (Run.steps machine trace request) ⟨system, "", ""⟩ with
    | mk outcome after =>
        rw [settled] at succeeds
        cases outcome with
        | ok _ => exact Run.delivered_of_steps settled
        | error fault => cases succeeds
  · intro other same
    have ready := same.ready_iff machine
    rw [← Run.exitCode_perform_eq_zero_iff machine trace,
      ← Run.exitCode_perform_eq_zero_iff machine trace] at ready
    have bound := Run.exitCode_perform_le_one machine trace system request
    have bound' := Run.exitCode_perform_le_one machine trace other request
    omega

/-- A file system with an archive and a link to a file that does not exist. -/
def linked (content : List UInt8) : FileSystem :=
  ⟨.directory [("a.jar", .file content), ("r", .link "s")], []⟩

def bare : FileSystem :=
  ⟨.directory [], []⟩

def throughLink : Request :=
  { Request.empty with dependencies := ["/a.jar"], output := some "/r" }

theorem contains_linked (content : List UInt8) : (linked content).contains "/a.jar" = true := by
  have fit : FileSystem.checkPath "/a.jar" = .ok () := rfl
  have parts : Path.parts "/a.jar" = ["", "a.jar"] := rfl
  have short : ¬FileSystem.nameLimit < "a.jar".utf8ByteSize := by decide
  rw [FileSystem.contains_eq, fit, Outcome.ok_bind, FileSystem.resolve_eq fit, parts]
  simp [linked, FileSystem.walkBy, FileSystem.start, FileSystem.Node.kindAt, FileSystem.Node.kind,
    Path.isIdle, short, Except.toOption]

theorem contains_bare : bare.contains "/a.jar" = false := by
  have fit : FileSystem.checkPath "/a.jar" = .ok () := rfl
  have parts : Path.parts "/a.jar" = ["", "a.jar"] := rfl
  have short : ¬FileSystem.nameLimit < "a.jar".utf8ByteSize := by decide
  rw [FileSystem.contains_eq, fit, Outcome.ok_bind, FileSystem.resolve_eq fit, parts]
  simp [bare, FileSystem.walkBy, FileSystem.start, FileSystem.Node.kindAt, FileSystem.Node.kind,
    Path.isIdle, short, Except.toOption]

theorem opens_linked (content : List UInt8) : (linked content).Opens "/r" := by
  have parts : Path.parts "/r" = ["", "r"] := rfl
  have target : Path.parts "s" = ["s"] := rfl
  have absolute : Path.isAbsolute "/r" = true := by simp [Path.isAbsolute]
  have short : ¬FileSystem.nameLimit < "r".utf8ByteSize := by decide
  have short' : ¬FileSystem.nameLimit < "s".utf8ByteSize := by decide
  refine ⟨rfl, ["s"], ?_⟩
  rw [parts]
  simp [linked, FileSystem.walkNew, FileSystem.start, FileSystem.Node.find?,
    Path.isIdle, short, short', target, absolute, FileSystem.linkLimit, List.lookup_cons]

theorem ready_linked (content : List UInt8) : Run.Ready {} (linked content) throughLink := by
  have compile : Run.paths (linked content) "--dependency arguments" "dependency"
      throughLink.dependencies = .ok ["/a.jar"] :=
    (Run.paths_single _ _ _ _ rfl).trans (if_pos (contains_linked content))
  have test : Run.paths (linked content) "--test-dependency arguments" "test dependency"
      throughLink.testDependencies = .ok [] := Run.paths_nil _ _ _
  refine ⟨⟨⟨none, [⟨"/a.jar", .compile⟩]⟩, ?_⟩, ?_, ?_, ⟨.builtin, rfl⟩, ?_⟩
  · rw [Run.inputs, compile, test]
    rfl
  · intro jobs given
    cases given
  · intro address given
    cases given
  · intro path names
    cases names
    exact .inr (opens_linked content)

theorem not_ready_bare : ¬Run.Ready {} bare throughLink := by
  have compile : Run.paths bare "--dependency arguments" "dependency"
      throughLink.dependencies = .error (.missing "dependency" "/a.jar") := by
    refine (Run.paths_single _ _ _ _ rfl).trans (if_neg ?_)
    rw [contains_bare]
    decide
  intro ready
  obtain ⟨inputs, named⟩ := ready.inputs
  rw [Run.inputs, compile] at named
  cases named

theorem sameSetting_linked (content other : List UInt8) :
    Run.SameSetting throughLink (linked content) (linked other) := by
  have altered : (linked other).root =
      FileSystem.Node.insert (.file other) ([] ++ ["a.jar"]) (linked content).root := rfl
  have vacant : (linked content).root.kindAt ([] ++ ["a.jar"]) ≠ some .directory := by
    rw [show (linked content).root.kindAt ([] ++ ["a.jar"]) = some .file from rfl]
    decide
  refine ⟨⟨rfl, fun place => ?_⟩, fun place configures => ?_⟩
  · rw [altered]
    by_cases same : place = [] ++ ["a.jar"]
    · rw [same, FileSystem.Node.kindAt_insert_file _ _ rfl]
      rfl
    · exact (FileSystem.Node.sameAt_insert other rfl vacant same).kind
  · rcases configures with ⟨first, ⟨reference, member, -⟩, -⟩ | ⟨path, member, -⟩
    · simp [Run.inputArguments, throughLink, Request.empty] at member
      cases member
    · cases member

/-- A report that is written through a link, an input that is missing, and a machine that starts no
workers. -/
theorem run_delivers_or_changes_nothing_through_link :
    let arguments := ["--dependency", "/a.jar", "--output", "/r"]
    let crowded : Run.Machine := { workers := fun _ => .error "Resource temporarily unavailable" }
    CommandLine.read arguments = .ok (.run throughLink) ∧
      (run "1" (linked []) arguments).exitCode = 0 ∧
      (run "1" (linked [0x50]) arguments).exitCode = 0 ∧
      (∃ inputs report, Run.inputs (linked []) throughLink = .ok inputs ∧
        Run.report (linked []) throughLink inputs = .ok report ∧
        Run.Delivered (linked []) (some "/r") (report.text throughLink.report)
          (run "1" (linked []) arguments).stdout (run "1" (linked []) arguments).system) ∧
      (run "1" bare arguments).exitCode ≠ 0 ∧ (run "1" bare arguments).stdout = "" ∧
      (run "1" bare arguments).system = bare ∧
      (run "1" (linked []) (arguments ++ ["--jobs", "4"]) crowded).exitCode ≠ 0 ∧
      (run "1" (linked []) (arguments ++ ["--jobs", "4"]) crowded).stdout = "" ∧
      (run "1" (linked []) (arguments ++ ["--jobs", "4"]) crowded).system = linked [] := by
  intro arguments crowded
  have accepted : CommandLine.read arguments = .ok (.run throughLink) := rfl
  have withJobs : CommandLine.read (arguments ++ ["--jobs", "4"]) =
      .ok (.run { throughLink with jobs := some 4 }) := rfl
  obtain ⟨ready, -, delivered, bytes⟩ :=
    run_delivers_or_changes_nothing {} "1" (linked []) _ _ accepted
  obtain ⟨unready, unchanged, -, -⟩ := run_delivers_or_changes_nothing {} "1" bare _ _ accepted
  obtain ⟨started, unstarted, -, -⟩ :=
    run_delivers_or_changes_nothing crowded "1" (linked []) _ _ withJobs
  have succeeds := ready.mpr (ready_linked [])
  have fails := unready.not.mpr not_ready_bare
  have refused : ¬Run.Ready crowded (linked []) { throughLink with jobs := some 4 } := by
    intro ready
    cases ready.workers 4 rfl
  have fails' := started.not.mpr refused
  exact ⟨accepted, succeeds, (bytes _ (sameSetting_linked [] [0x50])).trans succeeds,
    delivered succeeds, fails, (unchanged fails).1, (unchanged fails).2, fails', unstarted fails'⟩

end GrantSurvey
