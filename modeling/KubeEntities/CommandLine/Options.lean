import KubeEntities.Text.Blank

/-! The program's options. An option is written in full after two hyphens, or as a letter after one;
its value is the next argument or follows in the same one, after `=` where it is written in full.
Letters may be run together. Options other than endpoints are given at most once, flags take no
value, there are no positional arguments, and a path is never empty. -/

namespace KubeEntities.CommandLine

structure Options where
  config : Option String := none
  clusterName : Option String := none
  endpoints : List String := []
  pretty : Bool := false
  selfMetricsFile : Option String := none
  verbose : Bool := false
deriving DecidableEq

inductive Request
  | help
  | version
  | run (options : Options)
deriving DecidableEq

inductive UsageError
  | unknownOption (argument : String)
  | missingValue (option : String)
  | unexpectedValue (option : String)
  | emptyPath (option : String)
  | repeated (option : String)
  | unexpectedArgument (argument : String)
deriving DecidableEq

def UsageError.message : UsageError → String
  | .unknownOption argument | .unexpectedArgument argument =>
    "error: unexpected argument '" ++ argument ++ "' found"
  | .missingValue option | .emptyPath option =>
    "error: a value is required for '" ++ option ++ "' but none was supplied"
  | .unexpectedValue option => "error: unexpected value for '" ++ option ++ "' found"
  | .repeated option => "error: the argument '" ++ option ++ "' cannot be used multiple times"

/-- Options with a value. -/
inductive Setting
  | config
  | clusterName
  | endpoint
  | selfMetricsFile
deriving DecidableEq

inductive Flag
  | pretty
  | verbose
  | help
  | version
deriving DecidableEq

inductive Meaning
  | setting (s : Setting)
  | flag (f : Flag)
deriving DecidableEq

def Setting.name : Setting → String
  | .config => "--config"
  | .clusterName => "--cluster-name"
  | .endpoint => "--endpoint"
  | .selfMetricsFile => "--self-metrics-file"

def Flag.name : Flag → String
  | .pretty => "--pretty"
  | .verbose => "--verbose"
  | .help => "--help"
  | .version => "--version"

def meanings : List Meaning :=
  [.setting .config, .setting .clusterName, .setting .endpoint, .setting .selfMetricsFile,
    .flag .pretty, .flag .verbose, .flag .help, .flag .version]

def Meaning.name : Meaning → String
  | .setting s => s.name
  | .flag f => f.name

def long? (name : String) : Option Meaning := meanings.find? (·.name == name)

def short? : Char → Option Meaning
  | 'c' => some (.setting .config)
  | 'v' => some (.flag .verbose)
  | 'h' => some (.flag .help)
  | 'V' => some (.flag .version)
  | _ => none

/-- What an argument asks for: the rest of the line may still be needed, or is settled. -/
inductive Progress
  | going (o : Options)
  | settled (r : Request)

def once {α : Type} (before : Option α) (name : String) (value : α) :
    Except UsageError (Option α) :=
  if before.isSome then .error (.repeated name) else .ok (some value)

def path (name value : String) : Except UsageError String :=
  if value.isEmpty then .error (.emptyPath name) else .ok value

def Options.set (o : Options) (s : Setting) (value : String) : Except UsageError Options := do
  match s with
  | .config => return { o with config := ← once o.config s.name (← path s.name value) }
  | .clusterName => return { o with clusterName := ← once o.clusterName s.name value }
  | .endpoint => return { o with endpoints := o.endpoints ++ [value] }
  | .selfMetricsFile =>
    return { o with selfMetricsFile := ← once o.selfMetricsFile s.name (← path s.name value) }

def Options.raise (o : Options) : Flag → Except UsageError Progress
  | .pretty =>
    if o.pretty then .error (.repeated Flag.pretty.name) else .ok (.going { o with pretty := true })
  | .verbose =>
    if o.verbose then .error (.repeated Flag.verbose.name) else .ok (.going { o with verbose := true })
  | .help => .ok (.settled .help)
  | .version => .ok (.settled .version)

/-- A lone hyphen counts as a value, and so does anything without a leading hyphen. -/
def isValue (argument : String) : Bool := !argument.startsWith "-" || argument == "-"

/-- An argument, taken apart. -/
inductive Shape
  | terminator
  | long (name : String) (value : Option String)
  | letters (letters : List Char)
  | plain

def Shape.ofArgument (argument : String) : Shape :=
  match argument.toList with
  | ['-', '-'] => .terminator
  | '-' :: '-' :: _ =>
    let name := argument.toList.takeWhile (· != '=')
    match argument.toList.dropWhile (· != '=') with
    | [] => .long (String.ofList name) none
    | _ :: value => .long (String.ofList name) (some (String.ofList value))
  | '-' :: first :: more => .letters (first :: more)
  | _ => .plain

/-- What a run of letters leaves to be done: nothing, or finding a value in the next argument. -/
inductive Pending
  | progress (p : Progress)
  | needsValue (o : Options) (s : Setting)

def readLetters (o : Options) : List Char → Except UsageError Pending
  | [] => .ok (.progress (.going o))
  | letter :: rest =>
    match short? letter with
    | none => .error (.unknownOption (String.ofList ['-', letter]))
    | some (.flag f) => do
      match ← o.raise f with
      | .going o => readLetters o rest
      | .settled r => return .progress (.settled r)
    | some (.setting s) =>
      match rest with
      | [] => .ok (.needsValue o s)
      | '=' :: value => (o.set s (String.ofList value)).map fun o => .progress (.going o)
      | value => (o.set s (String.ofList value)).map fun o => .progress (.going o)

def readLong (o : Options) (name : String) (value : Option String) : Except UsageError Pending :=
  match long? name, value with
  | none, _ => .error (.unknownOption name)
  | some (.flag _), some _ => .error (.unexpectedValue name)
  | some (.flag f), none => (o.raise f).map .progress
  | some (.setting s), some value => (o.set s value).map fun o => .progress (.going o)
  | some (.setting s), none => .ok (.needsValue o s)

/-- Reads the arguments from left to right; the first fault, or the first request for help or the
version, decides. `owed` is the option whose value has to come next. -/
def readFrom (o : Options) (owed : Option Setting) : List String → Except UsageError Request
  | [] =>
    match owed with
    | some s => .error (.missingValue s.name)
    | none => .ok (.run o)
  | argument :: rest =>
    match owed with
    | some s =>
      if isValue argument then do readFrom (← o.set s argument) none rest
      else .error (.missingValue s.name)
    | none => do
      let pending ← match Shape.ofArgument argument with
        | .terminator =>
          match rest with
          | [] => Except.ok (Pending.progress (.settled (.run o)))
          | extra :: _ => Except.error (UsageError.unexpectedArgument extra)
        | .long name value => readLong o name value
        | .letters letters => readLetters o letters
        | .plain => Except.error (UsageError.unexpectedArgument argument)
      match pending with
      | .progress (.going o) => readFrom o none rest
      | .progress (.settled r) => return r
      | .needsValue o s => readFrom o (some s) rest

def configVariable : String := "K8S_METRICS_CONFIG"

/-- The configuration file may also be named by a variable; an option goes before it. -/
def withEnvironment (environment : List (String × String)) : Request → Except UsageError Request
  | .run o =>
    match o.config, environment.lookup configVariable with
    | none, some value => do
      return .run { o with config := some (← path Setting.config.name value) }
    | _, _ => .ok (.run o)
  | r => .ok r

def read (arguments : List String) (environment : List (String × String)) :
    Except UsageError Request := do
  withEnvironment environment (← readFrom {} none arguments)

end KubeEntities.CommandLine
