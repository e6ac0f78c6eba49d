import KubeEntities.CommandLine

/-! The command line on the real machine. Everything that is decided is decided in `CommandLine`;
here files are read and written, the environment is asked, and text is printed. -/

open KubeEntities

namespace KubeEntities.Machine

/-- The system's number for an error, which comes with either sign. -/
def systemNumber (code : UInt32) : Nat :=
  if code.toNat < Nat.pow 2 31 then code.toNat else Nat.pow 2 32 - code.toNat

def fileError : IO.Error → FileError
  | .noFileOrDirectory .. => .notFound
  | .inappropriateType _ code _ => if systemNumber code = 20 then .notDirectory else .isDirectory
  | e@(.invalidArgument _ code _) =>
    if systemNumber code = 36 then .nameTooLong else .other (toString e)
  | e => .other (toString e)

/-- Does something with the file at a path that is one. -/
def onFile {α : Type} (path : String) (act : IO (Except FileError α)) :
    IO (Except FileError α) := do
  match FileError.ofPath? path with
  | some e => return .error e
  | none => try act catch e => return .error (fileError e)

def readText (path : String) : IO (Except FileError String) :=
  onFile path do
    match String.fromUTF8? (← IO.FS.readBinFile path) with
    | some text => return .ok text
    | none => return .error .notText

def isFile (path : String) : IO Bool := do
  let content ← onFile path do return .ok (← IO.FS.readBinFile path)
  return content.isOk

def writeText (path text : String) : IO (Except FileError Unit) :=
  onFile path do
    IO.FS.writeFile path text
    return .ok ()

/-- This host has no network client. -/
def host : Host IO where
  isFile := isFile
  read := readText
  write := writeText
  download url _ _ := return .error (.request url "no network client")
  clock := IO.monoNanosNow

/-- The variables that name a setting. -/
def variableNames : List String :=
  CommandLine.configVariable :: [
    "CLUSTER_NAME", "K8S_VERSION", "DATA_SOURCE", "ENDPOINTS", "TIMEOUT_SECS", "BEARER_TOKEN_FILE",
    "NAMESPACE_FILTER__INCLUDE", "NAMESPACE_FILTER__EXCLUDE", "LOG_LEVEL", "LOG_FORMAT",
    "PRETTY"].map ("K8S_METRICS_" ++ ·)

def environment : IO (List (String × String)) := do
  let values ← variableNames.mapM fun name => return (name, ← IO.getEnv name)
  return values.filterMap fun (name, value) => value.map (name, ·)

end KubeEntities.Machine

def main (arguments : List String) : IO UInt32 := do
  let finish ← CommandLine.run Machine.host arguments (← Machine.environment)
  let errors ← IO.getStderr
  for line in finish.logLines do
    errors.putStrLn line
  IO.print finish.output
  if let some error := finish.error then
    errors.putStrLn error
  return finish.code.toUInt32
