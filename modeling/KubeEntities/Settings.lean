import KubeEntities.Host
import KubeEntities.Json.Reader
import KubeEntities.NamespaceFilter
import KubeEntities.Settings.Layer

/-! The settings of a run: defaults, under a file, under the environment. Settings that no layer
sets take their defaults, unknown keys are passed over, and a value that does not fit its setting
makes the whole invalid. -/

namespace KubeEntities

inductive LogFormat
  | json
  | text
deriving DecidableEq

def LogFormat.all : List LogFormat := [.json, .text]

def LogFormat.name : LogFormat → String
  | .json => "json"
  | .text => "text"

structure Settings where
  clusterName : String := ""
  k8sVersion : String := "unknown"
  dataSource : String := "ksm"
  endpoints : List String := ["http://kube-state-metrics.kube-system.svc:8080/metrics"]
  timeoutSecs : Nat := 10
  bearerTokenFile : Option String := none
  namespaceFilter : NamespaceFilter := NamespaceFilter.none
  logLevel : String := "info"
  logFormat : LogFormat := .json
  pretty : Bool := false
deriving DecidableEq

namespace Settings

def logFormat? (j : Json) : Option LogFormat :=
  let named (s : String) := LogFormat.all.find? (·.name == lower s)
  match j with
  | .str s => named s
  | .obj [(key, _)] => named key
  | _ => none

def optionalText? : Json → Option (Option String)
  | .null => some none
  | j => (text? j).map some

/-- Reads a setting that may be unset. -/
def orDefault {α : Type} (default : α) (read? : Json → Option α) : Option Json → Option α
  | none => some default
  | some j => read? j

/-- Two lists under their names, or in the order inclusions, exclusions. -/
def namespaceFilter? (j : Json) : Option NamespaceFilter :=
  let ofParts (included excluded : Option Json) : Option NamespaceFilter := do
    return ⟨← orDefault [] texts? included, ← orDefault [] texts? excluded⟩
  match j with
  | .obj entries => ofParts (entries.lookup "include") (entries.lookup "exclude")
  | .arr items => ofParts items[0]? items[1]?
  | _ => none

def ofTable? (table : Table) : Option Settings :=
  let field {α : Type} (key : String) (default : α) (read? : Json → Option α) : Option α :=
    orDefault default read? (table.lookup key)
  let defaults : Settings := {}
  do return {
    clusterName := ← field "cluster_name" defaults.clusterName text?
    k8sVersion := ← field "k8s_version" defaults.k8sVersion text?
    dataSource := ← field "data_source" defaults.dataSource text?
    endpoints := ← field "endpoints" defaults.endpoints texts?
    timeoutSecs := ← field "timeout_secs" defaults.timeoutSecs unsigned?
    bearerTokenFile := ← field "bearer_token_file" defaults.bearerTokenFile optionalText?
    namespaceFilter := ← field "namespace_filter" defaults.namespaceFilter namespaceFilter?
    logLevel := ← field "log_level" defaults.logLevel text?
    logFormat := ← field "log_format" defaults.logFormat logFormat?
    pretty := ← field "pretty" defaults.pretty bool? }

inductive LoadError
  /-- a file that is missing, of unknown form, or no object -/
  | unreadable
  /-- a key with a position that its list does not have -/
  | noPosition
  /-- values that do not fit -/
  | invalid
deriving DecidableEq

def LoadError.message : LoadError → String
  | .unreadable => "Failed to load configuration"
  | .noPosition => "No such position in a list"
  | .invalid => "Invalid configuration"

/-- Arrays and objects may be open this deep in a file. -/
def maxDepth : Nat := 127

/-- The members of a file's object; of a repeated key the last one counts. -/
def fileLayer? (text : String) : Option (List (String × Json)) :=
  (Json.read? text).bind fun j =>
    if j.isSound && j.depth ≤ maxDepth then
      match j.normal with
      | .obj members => some members
      | _ => none
    else none

/-- Settings from the text of a file, if there is one, and the environment. -/
def ofSources (file : Option String) (environment : List (String × String)) :
    Except LoadError Settings :=
  match file.elim (some []) fileLayer? with
  | none => .error .unreadable
  | some layer =>
    match merged? [layer, environmentLayer environment] with
    | none => .error .noPosition
    | some table =>
      match ofTable? table with
      | none => .error .invalid
      | some settings => .ok settings

/-- The extension of a path's last part; a leading point begins none. -/
def extension? (path : String) : Option String :=
  let name := ((Text.splitAt (· == '/') path.toList).getLast?).getD []
  match Text.splitAt (· == '.') name with
  | _ :: [] => none
  | [[], _] => none
  | parts => parts.getLast?.map String.ofList

variable {m : Type → Type} [Monad m]

/-- The path with the extension added to its last name; a path that ends in no name has none. -/
def extended? (path : String) : Option String :=
  let parts := (Text.splitAt (· == '/') path.toList).map String.ofList
  match parts.reverse.dropWhile fun part => part == "" || part == "." with
  | [] => none
  | ".." :: _ => none
  | named => some ("/".intercalate named.reverse ++ ".json")

/-- A path that is no file is tried with the extension added. -/
def locate (host : Host m) (path : String) : m (Option String) := do
  if ← host.isFile path then
    return if extension? path = some "json" then some path else none
  else match extended? path with
    | none => return none
    | some extended => return if ← host.isFile extended then some extended else none

def load (host : Host m) (path : Option String) (environment : List (String × String)) :
    m (Except LoadError Settings) := do
  match path with
  | none => return ofSources none environment
  | some path =>
    match ← locate host path with
    | none => return .error .unreadable
    | some path =>
      match ← host.read path with
      | .error _ => return .error .unreadable
      | .ok text => return ofSources (some text) environment

inductive Problem
  | noClusterName
  | noEndpoints
  | noTimeout
deriving DecidableEq

def Problem.message : Problem → String
  | .noClusterName => "cluster_name must be set (--cluster-name or K8S_METRICS_CLUSTER_NAME)"
  | .noEndpoints => "at least one endpoint is required"
  | .noTimeout => "timeout_secs must be positive"

/-- The first thing that keeps these settings from being run. -/
def problem? (s : Settings) : Option Problem :=
  if (Text.trim s.clusterName.toList).isEmpty then some .noClusterName
  else if s.endpoints.isEmpty then some .noEndpoints
  else if s.timeoutSecs = 0 then some .noTimeout
  else none

/-- A token file that cannot be read. -/
structure TokenError where
  path : String
deriving DecidableEq

def TokenError.message (e : TokenError) : String := "Failed to read bearer token from " ++ e.path

def bearerToken (s : Settings) (host : Host m) : m (Except TokenError (Option String)) := do
  match s.bearerTokenFile with
  | none => return .ok none
  | some path =>
    match ← host.read path with
    | .ok text => return .ok (some (String.ofList (Text.trim text.toList)))
    | .error _ => return .error ⟨path⟩

end Settings
end KubeEntities
