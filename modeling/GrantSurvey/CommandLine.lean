import GrantSurvey.Report.Writing
import GrantSurvey.Text.Decimal

/-!
# The command line

Arguments are read from left to right. A switch takes no value, one, or as many as follow; a value
that is attached with an equals sign is the only one of that occurrence. The values of a switch are
settled when the next switch begins, and the first thing that is wrong ends the reading.
-/

namespace GrantSurvey.CommandLine

inductive Switch where
  | project
  | dependency
  | testDependency
  | includeTestDependencies
  | knowledgeBase
  | format
  | perModule
  | xref
  | output
  | jobs
  | otel
  | timing
  | help
  | version
  deriving DecidableEq, Repr

inductive Arity where
  | none
  | one
  | many
  deriving DecidableEq, Repr

namespace Switch

def name : Switch → String
  | project => "project"
  | dependency => "dependency"
  | testDependency => "test-dependency"
  | includeTestDependencies => "include-test-dependencies"
  | knowledgeBase => "knowledge-base"
  | format => "format"
  | perModule => "per-module"
  | xref => "xref"
  | output => "output"
  | jobs => "jobs"
  | otel => "otel"
  | timing => "timing"
  | help => "help"
  | version => "version"

def all : List Switch :=
  [project, dependency, testDependency, includeTestDependencies, knowledgeBase, format, perModule,
    xref, output, jobs, otel, timing, help, version]

def ofName? (name : String) : Option Switch :=
  all.find? fun switch => switch.name == name

def ofLetter? : Char → Option Switch
  | 'h' => some .help
  | 'V' => some .version
  | _ => none

def arity : Switch → Arity
  | project | format | xref | output | jobs | otel => .one
  | dependency | testDependency | knowledgeBase => .many
  | includeTestDependencies | perModule | timing | help | version => .none

end Switch

structure Request where
  project : Option String
  dependencies : List String
  testDependencies : List String
  includeTests : Bool
  rulebooks : List String
  report : Report.Options
  output : Option String
  jobs : Option Nat
  collector : Option String
  timing : Bool
  deriving DecidableEq, Repr

def Request.empty : Request where
  project := none
  dependencies := []
  testDependencies := []
  includeTests := false
  rulebooks := []
  report := ⟨.policy, false, none⟩
  output := none
  jobs := none
  collector := none
  timing := false

inductive Refusal where
  | unexpected (argument : String)
  | missingValue (switch : Switch)
  | invalidValue (switch : Switch) (value : String)
  | repeated (switch : Switch)
  deriving DecidableEq, Repr

def Refusal.message : Refusal → String
  | unexpected argument => s!"error: unexpected argument '{argument}' found"
  | missingValue switch => s!"error: a value is required for '--{switch.name}' but none was supplied"
  | invalidValue switch value => s!"error: invalid value '{value}' for '--{switch.name}'"
  | repeated switch => s!"error: the argument '--{switch.name}' cannot be used multiple times"

inductive Command where
  | run (request : Request)
  | help
  | version
  deriving DecidableEq, Repr

/-! ## Values -/

def pathValue (switch : Switch) (value : String) : Except Refusal String :=
  if value.isEmpty then .error (.invalidValue switch value) else .ok value

def Request.set (request : Request) (switch : Switch) (values : List String) :
    Except Refusal Request :=
  match switch, values with
  | .dependency, _ :: _ => .ok { request with dependencies := request.dependencies ++ values }
  | .testDependency, _ :: _ =>
      .ok { request with testDependencies := request.testDependencies ++ values }
  | .knowledgeBase, _ :: _ => do
      let paths ← values.mapM (pathValue .knowledgeBase)
      return { request with rulebooks := request.rulebooks ++ paths }
  | .project, value :: _ => .ok { request with project := some value }
  | .xref, value :: _ =>
      .ok { request with report := { request.report with linkBase := some value } }
  | .otel, value :: _ => .ok { request with collector := some value }
  | .output, value :: _ => do
      return { request with output := some (← pathValue .output value) }
  | .format, value :: _ =>
      match Report.Format.ofName? value with
      | some format => .ok { request with report := { request.report with format } }
      | none => .error (.invalidValue .format value)
  | .jobs, value :: _ =>
      match Text.unsigned? value.toList with
      | some jobs => .ok { request with jobs := some jobs }
      | none => .error (.invalidValue .jobs value)
  | .includeTestDependencies, _ => .ok { request with includeTests := true }
  | .perModule, _ => .ok { request with report := { request.report with perModule := true } }
  | .timing, _ => .ok { request with timing := true }
  | .help, _ | .version, _ => .ok request
  | switch, [] => .error (.missingValue switch)

/-! ## Reading -/

/-- A switch whose values are still being collected. -/
structure Pending where
  switch : Switch
  values : List String
  deriving DecidableEq, Repr

def Pending.isOpen (pending : Pending) : Bool :=
  match pending.switch.arity with
  | .none => false
  | .one => pending.values.isEmpty
  | .many => true

/-- What has been read so far: the request, the switches that may not come again, and the switch
whose values are still being collected. -/
structure Progress where
  request : Request
  spent : List Switch
  pending : Option Pending
  deriving DecidableEq, Repr

namespace Progress

def start : Progress := ⟨.empty, [], none⟩

/-- Enters the values of a switch. Only a switch that takes many values may come again. -/
def enter (progress : Progress) (switch : Switch) (values : List String) :
    Except Refusal Progress := do
  if switch.arity != .many && progress.spent.contains switch then throw (.repeated switch)
  return { progress with
    request := ← progress.request.set switch values
    spent := switch :: progress.spent }

def settle (progress : Progress) : Except Refusal Progress :=
  match progress.pending with
  | some pending => enter { progress with pending := none } pending.switch pending.values
  | none => .ok progress

def take (progress : Progress) (value : String) : Except Refusal Progress :=
  match progress.pending with
  | some pending =>
      if pending.isOpen then
        .ok { progress with pending := some { pending with values := pending.values ++ [value] } }
      else .error (.unexpected value)
  | none => .error (.unexpected value)

end Progress

inductive Shape where
  | divider
  | long (name : String) (value : Option String)
  | short (letter : Char)
  | value
  deriving DecidableEq, Repr

/-- The shape of an argument. A single dash is a value. -/
def Shape.of (argument : String) : Shape :=
  match argument.toList with
  | ['-', '-'] => .divider
  | '-' :: '-' :: text =>
      let name := String.ofList (text.takeWhile (· != '='))
      match text.dropWhile (· != '=') with
      | [] => .long name none
      | _ :: attached => .long name (some (String.ofList attached))
  | '-' :: letter :: _ => .short letter
  | _ => .value

/-- What comes of a switch: more to read, or an answer at once. -/
inductive Step where
  | next (progress : Progress)
  | answer (command : Command)
  deriving DecidableEq, Repr

def begin (progress : Progress) (switch : Switch) : Except Refusal Step := do
  let progress ← progress.settle
  match switch, switch.arity with
  | .help, _ => return .answer .help
  | .version, _ => return .answer .version
  | _, .none => return .next (← progress.enter switch [])
  | _, _ => return .next { progress with pending := some ⟨switch, []⟩ }

def step (progress : Progress) (argument : String) : Except Refusal Step := do
  match Shape.of argument with
  | .divider | .value => return .next (← progress.take argument)
  | .short letter =>
      match Switch.ofLetter? letter with
      | some switch => begin progress switch
      | none => throw (.unexpected argument)
  | .long name none =>
      match Switch.ofName? name with
      | some switch => begin progress switch
      | none => throw (.unexpected argument)
  | .long name (some value) =>
      match Switch.ofName? name with
      | some switch =>
          if switch.arity == .none then throw (.unexpected argument)
          else return .next (← (← progress.settle).enter switch [value])
      | none => throw (.unexpected argument)

/-- Reads arguments on top of what has been read. Nothing may follow the divider. -/
def readFrom (progress : Progress) : List String → Except Refusal Command
  | [] => return .run (← progress.settle).request
  | argument :: arguments =>
      match Shape.of argument, arguments with
      | .divider, [] => return .run (← progress.settle).request
      | .divider, surplus :: _ => throw (.unexpected surplus)
      | _, _ => do
          match ← step progress argument with
          | .next progress => readFrom progress arguments
          | .answer command => return command

def read (arguments : List String) : Except Refusal Command :=
  readFrom .start arguments

end GrantSurvey.CommandLine
