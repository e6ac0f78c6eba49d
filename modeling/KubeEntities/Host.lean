/-! What the program asks of the machine it runs on: files, one kind of network request, and the
time. A host may be the real machine or a value in memory; everything above is the same for both. -/

namespace KubeEntities

inductive FileError
  | notFound
  | isDirectory
  | notDirectory
  | notText
  | nameTooLong
  | nulInPath
  | other (reason : String)
deriving DecidableEq

def FileError.message : FileError → String
  | .notFound => "No such file or directory (os error 2)"
  | .isDirectory => "Is a directory (os error 21)"
  | .notDirectory => "Not a directory (os error 20)"
  | .notText => "stream did not contain valid UTF-8"
  | .nameTooLong => "File name too long (os error 36)"
  | .nulInPath => "file name contained an unexpected NUL byte"
  | .other reason => reason

/-- Longest name of one file or directory, in bytes. -/
def maxNameBytes : Nat := 255

/-- Longest path, in bytes. -/
def maxPathBytes : Nat := 4095

/-- What is wrong with a path already as text, whatever files there are. -/
def FileError.ofPath? (path : String) : Option FileError :=
  if path.toList.contains '\x00' then some .nulInPath
  else if path.isEmpty then some .notFound
  else if path.utf8ByteSize > maxPathBytes then some .nameTooLong
  else none

inductive SourceError
  | read (path : String) (e : FileError)
  | request (url reason : String)
  | status (url : String) (code : Nat)
deriving DecidableEq

def SourceError.message : SourceError → String
  | .read path e => "failed to read " ++ path ++ ": " ++ e.message
  | .request url reason => "request to " ++ url ++ " failed: " ++ reason
  | .status url code => url ++ " responded with status " ++ toString code

structure Host (m : Type → Type) where
  isFile : String → m Bool
  read : String → m (Except FileError String)
  write : String → String → m (Except FileError Unit)
  /-- the body served at an address, asked for with a token within so many seconds -/
  download : String → Option String → Nat → m (Except SourceError String)
  /-- nanoseconds on a clock that never goes back -/
  clock : m Nat

end KubeEntities
