import KubeEntities.CommandLine.Options
import KubeEntities.Payload.Text
import KubeEntities.Scrape
import KubeEntities.Settings
import KubeEntities.StateMetrics

/-! The program behind the command line: options over settings, one scrape, the payload on standard
output, and if asked for the program's own metrics in a file. It ends well only if a source
populated the payload. -/

namespace KubeEntities.CommandLine

def programName : String := "k8s-metrics-integration"

def version : String := "0.1.0"

def integrationName : String := "com.kubewise.kubernetes"

def helpText : String := String.join <| [
  "Turns kube-state-metrics series into an entity payload",
  "",
  "Usage: " ++ programName ++ " [OPTIONS]",
  "",
  "Options:",
  "  -c, --config <CONFIG>          Configuration file",
  "      --cluster-name <NAME>      Cluster name, overrides the configuration",
  "      --endpoint <ENDPOINT>      Metrics endpoint, repeatable; replaces configured endpoints",
  "      --pretty                   Pretty-print the JSON payload",
  "      --self-metrics-file <FILE> Write the integration's own metrics to this file",
  "  -v, --verbose                  Enable debug logging",
  "  -h, --help                     Print help",
  "  -V, --version                  Print version"].map (· ++ "\n")

inductive Failure
  | load (e : Settings.LoadError)
  | problem (p : Settings.Problem)
  | unknownDataSource (name : String)
  | token (e : Settings.TokenError)
  | selfMetrics (path : String)
deriving DecidableEq

def Failure.message : Failure → String
  | .load e => e.message
  | .problem p => p.message
  | .unknownDataSource name => "Unknown data source: " ++ name
  | .token e => e.message
  | .selfMetrics path => "Failed to write self metrics to " ++ path

/-- The status of a failed run. -/
def Failure.code : Failure → Nat
  | .load .noPosition => 101
  | _ => 1

/-- How a run ends. -/
structure Finish where
  code : Nat
  output : String := ""
  error : Option String := none
  settings : Option Settings := none
  events : List Event := []

/-- The lines of the log, in the form and from the level up that the settings ask for. -/
def Finish.logLines (f : Finish) : List String :=
  match f.settings with
  | none => []
  | some s =>
    let records := f.events.map (Event.record s.clusterName)
    let shown := records.filter fun r => r.level.isShown s.logLevel
    shown.map fun r => match s.logFormat with
      | .json => r.jsonLine
      | .text => r.plainLine

/-- Options win over settings. Flags only ever switch something on. -/
def Options.apply (o : Options) (s : Settings) : Settings :=
  { s with
    clusterName := o.clusterName.getD s.clusterName
    endpoints := if o.endpoints.isEmpty then s.endpoints else o.endpoints
    pretty := o.pretty || s.pretty
    logLevel := if o.verbose then "debug" else s.logLevel }

def contextOf (s : Settings) : CycleContext where
  cluster := s.clusterName
  k8sVersion := s.k8sVersion
  filter := if s.namespaceFilter.isEmpty then none else some s.namespaceFilter.allows

variable {m : Type → Type} [Monad m]

/-- Settings that can be run, and the data source that they name. -/
def prepare (host : Host m) (o : Options) (environment : List (String × String)) :
    m (Except Failure (Settings × DataSource)) := do
  match ← Settings.load host o.config environment with
  | .error e => return .error (.load e)
  | .ok loaded =>
    let settings := o.apply loaded
    match settings.problem?, DataSource.ofName? settings.dataSource with
    | some p, _ => return .error (.problem p)
    | none, none => return .error (.unknownDataSource settings.dataSource)
    | none, some source => return .ok (settings, source)

def scraper : Scraper := ⟨integrationName, version⟩

/-- Writes the program's own metrics if a file for them is named. -/
def writeTally (host : Host m) (o : Options) (tally : Tally) : m (Option Failure) := do
  match o.selfMetricsFile with
  | none => return none
  | some path =>
    match ← host.write path tally.exposition with
    | .ok () => return none
    | .error _ => return some (.selfMetrics path)

def failed (f : Failure) (output : String := "") : Finish :=
  { code := f.code, output, error := some ("Error: " ++ f.message) }

def runWith (host : Host m) (o : Options) (settings : Settings) (data : DataSource) : m Finish := do
  match ← settings.bearerToken host with
  | .error e => return failed (.token e)
  | .ok token =>
    let sources := settings.endpoints.map (Source.ofEndpoint host settings.timeoutSecs token)
    let outcome ← scraper.scrape host.clock data (contextOf settings) sources
    let output := outcome.payload.text settings.pretty ++ "\n"
    let finish ← match ← writeTally host o outcome.tally with
      | some f => pure (failed f output)
      | none => pure { code := if outcome.populated then 0 else 1, output : Finish }
    return { finish with settings := some settings, events := outcome.events }

def run (host : Host m) (arguments : List String) (environment : List (String × String)) :
    m Finish := do
  match read arguments environment with
  | .error e => return { code := 2, error := some e.message }
  | .ok .help => return { code := 0, output := helpText }
  | .ok .version => return { code := 0, output := programName ++ " " ++ version ++ "\n" }
  | .ok (.run o) =>
    match ← prepare host o environment with
    | .error f => return failed f
    | .ok (settings, data) => runWith host o settings data

end KubeEntities.CommandLine
