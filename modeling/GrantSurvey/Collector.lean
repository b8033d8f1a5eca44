import GrantSurvey.Account
import GrantSurvey.Text.Quoted
import GrantSurvey.Url.Parser
import GrantSurvey.Url.Target

/-!
# Addresses of trace collectors

A collector is named by an absolute URL, either of the place below which all signals are sent or of
one signal. Traces are sent to a path below that place, which has to be a target of requests.
-/

namespace GrantSurvey.Collector

inductive Fault where
  | invalid (address : String) (fault : Url.Fault)
  | unusable (endpoint : String) (fault : Url.Target.Fault)
  deriving DecidableEq, Repr

def Fault.account : Fault → Account
  | invalid address fault =>
      [s!"invalid OTLP collector URL {Text.quoted address}", fault.message]
  | unusable endpoint fault =>
      ["build OTLP span exporter", s!"invalid URI {endpoint}. Reason {fault.message}"]

def signalPaths : List String := ["/v1/traces", "/v1/logs", "/v1/metrics"]

def basePath (path : String) : String :=
  let trimmed := String.ofList (path.toList.reverse.dropWhile (· == '/')).reverse
  match signalPaths.find? fun signal => trimmed.endsWith signal with
  | some signal => (trimmed.dropEnd signal.length).toString
  | none => trimmed

def tracesUrl (url : Url) : Url :=
  url.withPath (basePath url.path.text ++ "/v1/traces")

def check (address : String) : Except Fault Unit := do
  let url ← (Url.parse address).mapError (.invalid address)
  let endpoint := (tracesUrl url).text
  (Url.Target.check endpoint).mapError (.unusable endpoint)

end GrantSurvey.Collector
