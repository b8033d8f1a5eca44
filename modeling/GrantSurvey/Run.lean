import GrantSurvey.ArgumentFile
import GrantSurvey.Collector
import GrantSurvey.CommandLine
import GrantSurvey.Project
import GrantSurvey.Rulebook.Builtin
import GrantSurvey.Rulebook.Extension

/-!
# Runs

A run takes a file system and a command line to an exit code, the texts on both output streams and
the file system afterwards. It is a sequence of steps, and each of them leaves a world behind, also
the one that fails. What a run needs of the machine, other than its files, is a parameter.
-/

namespace GrantSurvey

open CommandLine

namespace Run

inductive Fault where
  | unexpandable (switches : String) (fault : ArgumentFile.Fault)
  | missing (role path : String)
  | severalProjects
  | noInput
  | workers (cause : String)
  | collector (fault : Collector.Fault)
  | rulebook (fault : Rulebook.ExtensionFault)
  | output (path : String) (fault : FileSystem.Fault)
  deriving Repr

def Fault.account : Fault → Account
  | unexpandable switches fault => s!"failed to expand {switches}" :: fault.account
  | missing role path => [s!"{role} not found: {path}"]
  | severalProjects => ["--project must name exactly one path"]
  | noInput => ["no input paths provided; use --project, --dependency or --test-dependency"]
  | workers cause => ["failed to configure worker threads", cause]
  | collector fault => fault.account
  | rulebook fault => fault.account
  | output path fault => [s!"failed to open {path}", fault.message]

/-! ## Inputs -/

structure Inputs where
  project : Option Artifact
  dependencies : List Artifact
  deriving DecidableEq, Repr

/-- The paths that arguments stand for. All of them have to exist. -/
def paths (system : FileSystem) (switches role : String) (arguments : List String) :
    Except Fault (List String) := do
  let paths ← (ArgumentFile.expand system system.workingDirectory arguments).mapError
    (.unexpandable switches)
  match paths.find? fun path => !system.contains path with
  | some path => throw (.missing role path)
  | none => return paths

def projectOf (system : FileSystem) : Option String → Except Fault (Option Artifact)
  | none => .ok none
  | some argument => do
      match ← paths system "--project argument" "project" [argument] with
      | [path] => return some ⟨path, .project⟩
      | _ => throw .severalProjects

def inputs (system : FileSystem) (request : Request) : Except Fault Inputs := do
  let project ← projectOf system request.project
  let compile ← paths system "--dependency arguments" "dependency" request.dependencies
  let test ← paths system "--test-dependency arguments" "test dependency"
    request.testDependencies
  let dependencies := compile.map (⟨·, .compile⟩) ++ test.map (⟨·, .test⟩)
  if project.isNone && dependencies.isEmpty then throw .noInput
  return { project, dependencies }

/-! ## Reports -/

def report (system : FileSystem) (request : Request) (inputs : Inputs) :
    Except Fault ProjectReport := do
  let book ← (Rulebook.extended system .builtin request.rulebooks).mapError .rulebook
  return examineProject (Artifact.examine book system) inputs.project inputs.dependencies
    request.includeTests

/-! ## Steps -/

/-- What the steps of a run work on: the file system, and what was written to the output streams. -/
structure World where
  system : FileSystem
  stdout : String
  stderr : String
  deriving Repr

/-- A step of a run. It leaves a world behind whether it fails or not. -/
abbrev Step := ExceptT Fault (StateM World)

/-- What a run needs of its machine apart from the files: to start a number of workers, which may
fail for some cause, and to write log lines. By default, workers start and nothing is logged. -/
structure Machine where
  workers : Nat → Except String Unit := fun _ => .ok ()
  timing : ProjectReport → String := fun _ => ""
  closing : String := ""

/-- Does a last step whether the first one fails or not. The outcome is that of the first one. -/
def endingWith {α : Type} (last : Step Unit) (step : Step α) : Step α := do
  let outcome ← ExceptT.lift step.run
  last
  outcome

def consult {α : Type} (look : FileSystem → Except Fault α) : Step α := do
  look (← get).system

def note (text : String) : Step Unit :=
  modify fun world => { world with stderr := world.stderr ++ text }

def settle {α : Type} (settling : α → Except Fault Unit) : Option α → Step Unit
  | some value => settling value
  | none => return

def startWorkers (machine : Machine) : Option Nat → Step Unit :=
  settle fun jobs => (machine.workers jobs).mapError .workers

def connect : Option String → Step Unit :=
  settle fun address => (Collector.check address).mapError .collector

inductive Sink where
  | standard
  | file (place : List String)
  deriving DecidableEq, Repr

/-- Opens the output, which empties a file that is there. A dash stands for the standard output. -/
def openOutput : Option String → Step Sink
  | none => return .standard
  | some path => do
      if Path.isName "-" path then return .standard
      let (place, system) ← consult fun system => (system.create path).mapError (.output path)
      modify fun world => { world with system }
      return .file place

def Sink.emit (text : String) : Sink → Step Unit
  | standard => modify fun world => { world with stdout := world.stdout ++ text }
  | file place =>
      modify fun world => { world with system := world.system.append place (Utf8.bytes text) }

def deliver (output : Option String) (text : String) : Step Unit := do
  (← openOutput output).emit text

/-- The line that names the trace of a run whose traces are collected. -/
def traceNote (trace : String) (collector : Option String) : String :=
  if collector.isSome then s!"trace-id={trace}\n" else ""

def survey (machine : Machine) (trace : String) (request : Request) (inputs : Inputs) :
    Step Unit := do
  note (traceNote trace request.collector)
  let report ← consult fun system => report system request inputs
  -- The output is opened only now, so that a survey that fails leaves it as it was.
  deliver request.output (report.text request.report)
  note (if request.timing then machine.timing report else "")

/-- All steps of a run, in their order. The last traces are sent after a failed survey, too. -/
def steps (machine : Machine) (trace : String) (request : Request) : Step Unit := do
  let inputs ← consult fun system => inputs system request
  startWorkers machine request.jobs
  connect request.collector
  endingWith (note (if request.collector.isSome then machine.closing else ""))
    (survey machine trace request inputs)

/-! ## Outcomes -/

structure Outcome where
  exitCode : Nat
  stdout : String
  stderr : String
  system : FileSystem
  deriving Repr

def outcome : Except Fault Unit × World → Outcome
  | (.ok _, world) => ⟨0, world.stdout, world.stderr, world.system⟩
  | (.error fault, world) =>
      ⟨1, world.stdout, world.stderr ++ fault.account.paragraph ++ "\n", world.system⟩

/-- Does what a request asks for. The trace of the run has the name `trace`. -/
def perform (machine : Machine) (trace : String) (system : FileSystem) (request : Request) :
    Outcome :=
  outcome ((steps machine trace request).run.run ⟨system, "", ""⟩)

end Run

def versionText : String :=
  s!"{Sarif.toolName} {Sarif.toolVersion}\n"

def switchText (switch : Switch) : String :=
  match switch.arity with
  | .none => s!"  --{switch.name}\n"
  | .one => s!"  --{switch.name} <VALUE>\n"
  | .many => s!"  --{switch.name} <VALUE>...\n"

def usageText : String :=
  s!"Usage: {Sarif.toolName} [OPTIONS]\n\nOptions:\n" ++ String.join (Switch.all.map switchText)

def run (trace : String) (system : FileSystem) (arguments : List String)
    (machine : Run.Machine := {}) : Run.Outcome :=
  match CommandLine.read arguments with
  | .ok (.run request) => Run.perform machine trace system request
  | .ok .version => ⟨0, versionText, "", system⟩
  | .ok .help => ⟨0, usageText, "", system⟩
  | .error refusal => ⟨2, "", refusal.message ++ "\n\n" ++ usageText, system⟩

end GrantSurvey
