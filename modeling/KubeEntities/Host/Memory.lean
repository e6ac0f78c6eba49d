import KubeEntities.Host
import KubeEntities.SortedMap
import KubeEntities.Text.Blank

/-! A host in memory: a tree of files below one working directory, no network, and a clock that
stands still. Directories exist only as parents of files, as the directories that hold the working
directory, and as the few below the root that every machine has; nothing else is known of what is
outside the tree, except for the null device, which is always empty. -/

namespace KubeEntities

/-- Files by path, with single slashes; content that is not text is `none`. -/
abbrev FileTree := SortedMap (Option String)

namespace FileTree

/-- A place, as the names that lead to it from the working directory. Places outside it start with
`..` as often as needed, or with the root's name. -/
abbrev Place := List String

/-- The root's name, which no other file can have. -/
def root : String := "/"

def pathText (place : Place) : String := "/".intercalate place

def standardDirectories : List String := ["bin", "dev", "etc", "home", "lib", "tmp", "usr", "var"]

def nullDevice : Place := [root, "dev", "null"]

def isDirectory (files : FileTree) (place : Place) : Bool :=
  place.all (· == "..") || place == [root]
    || standardDirectories.any (fun name => place == [root, name])
    || files.keys.any fun key => (pathText place ++ "/").toList.isPrefixOf key.toList

def file? (files : FileTree) (place : Place) : Option (Option String) :=
  if place = nullDevice then some (some "") else files.find? (pathText place)

/-- The directory that holds a place, latest name first; the root holds itself. -/
def outer : Place → Place
  | [] => [".."]
  | name :: rest =>
    if name = ".." then ".." :: name :: rest
    else if name = root then [root]
    else rest

/-- Follows a path from a place, latest name first. Only the last name may be missing, which the
second component of the result tells. -/
def follow (files : FileTree) (here : Place) : List String → Except FileError (Place × Bool)
  | [] => .ok (here, true)
  | name :: rest =>
    if !files.isDirectory here.reverse then .error .notDirectory
    else if name = "" ∨ name = "." then files.follow here rest
    else if name = ".." then files.follow (outer here) rest
    else if name.utf8ByteSize > maxNameBytes then .error .nameTooLong
    else
      let next := name :: here
      if files.isDirectory next.reverse || (files.file? next.reverse).isSome then
        files.follow next rest
      else if rest.isEmpty then .ok (next, false)
      else .error .notFound

def locate (files : FileTree) (path : String) : Except FileError (Place × Bool) :=
  match FileError.ofPath? path with
  | some e => .error e
  | none =>
    let start : Place := if path.toList.head? = some '/' then [root] else []
    (files.follow start ((Text.splitAt (· == '/') path.toList).map String.ofList)).map
      fun (place, found) => (place.reverse, found)

/-- Devices are no files. -/
def isFile (files : FileTree) (path : String) : Bool :=
  match files.locate path with
  | .ok (place, true) => !files.isDirectory place && place != nullDevice
  | _ => false

def read (files : FileTree) (path : String) : Except FileError String :=
  match files.locate path with
  | .error e => .error e
  | .ok (_, false) => .error .notFound
  | .ok (place, true) =>
    match files.file? place with
    | some (some text) => .ok text
    | some none => .error .notText
    | none => .error .isDirectory

def write (files : FileTree) (path text : String) : Except FileError FileTree :=
  match files.locate path with
  | .error e => .error e
  | .ok (place, _) =>
    if files.isDirectory place then .error .isDirectory
    else if place = nullDevice then .ok files
    else .ok (files.insert (pathText place) (some text))

end FileTree

def Host.memory : Host (StateM FileTree) where
  isFile path := do return (← get).isFile path
  read path := do return (← get).read path
  write path text := do
    match (← get).write path text with
    | .error e => return .error e
    | .ok files => set files; return .ok ()
  download url _ _ := return .error (.request url "no network")
  clock := return 0

end KubeEntities
