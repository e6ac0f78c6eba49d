import KubeEntities.Json
import KubeEntities.Text.Blank
import KubeEntities.Text.Integer

/-! Layers of settings. Every layer is a list of keys with values, and writing them one after the
other into a table makes later layers win key by key: the members of a table are written one by one
in turn, and anything else, lists included, is replaced. Keys are compared in lower case, and a key
with points or positions in brackets is a path. -/

namespace KubeEntities.Settings

/-- Entries in key order, each key in lower case. -/
abbrev Table := List (String × Json)

/-- Lower case of ASCII, and of the Kelvin sign, the one other character that ends there. -/
def lowerChar (c : Char) : Char := if c = '\u212a' then 'k' else c.toLower

def lower (s : String) : String := String.ofList (s.toList.map lowerChar)

/-- What is no table counts as an empty one. -/
def tableOf : Option Json → Table
  | some (.obj entries) => entries
  | _ => []

/-- What is no list counts as an empty one. -/
def listOf : Option Json → List Json
  | some (.arr items) => items
  | _ => []

mutual

/-- Writes one entry. A table goes member by member into what the key held, and anything else takes
its place. -/
def put (key : String) (table : Table) : Json → Table
  | .obj members =>
    SortedMap.put (lower key) (fun old => putMembers (old.getD (.obj [])) members) table
  | value => SortedMap.put (lower key) (fun _ => value) table

/-- Without members the old value stays, table or not. -/
def putMembers (old : Json) : List (String × Json) → Json
  | [] => old
  | (key, value) :: rest => putMembers (.obj (put key (tableOf (some old)) value)) rest

end

/-- One step of a path: into a table, or into a list. -/
inductive Step
  | key (name : String)
  | index (position : Int)
deriving DecidableEq

/-- No list is longer than this. -/
def maxItems : Nat := Nat.pow 2 57

/-- A position from the start of a list of this length. Negative ones count from the end; before the
start and far past every list there is no position. -/
def absolute? (position : Int) (length : Nat) : Option Nat :=
  let position := if position < 0 then length + position else position
  if 0 ≤ position ∧ position < maxItems then some position.toNat else none

/-- Sets one item of a list, which grows with nulls as far as needed. -/
def putItem (position : Nat) (item : Json) (items : List Json) : List Json :=
  if position < items.length then items.set position item
  else items ++ List.replicate (position - items.length) .null ++ [item]

/-- Puts a value at the end of a path, through tables and lists that are made where they are
missing; none if a list has no such position. -/
def putPath? (value : Json) (old : Option Json) : List Step → Option Json
  | [] => some value
  | [.key name] => some (.obj (put name (tableOf old) value))
  | .key name :: rest => do
    let item ← putPath? value ((tableOf old).lookup (lower name)) rest
    return .obj (SortedMap.put (lower name) (fun _ => item) (tableOf old))
  | .index position :: rest => do
    let position ← absolute? position (listOf old).length
    let item ← putPath? value (listOf old)[position]? rest
    return .arr (putItem position item (listOf old))

def isPathChar (c : Char) : Bool := c.isAlphanum || c == ' ' || c == '_' || c == '-'

/-- A position in brackets: an integer of 64 bits, spaces and tabs around it. -/
def position? (chars : List Char) : Option Int :=
  let isPadding (c : Char) : Bool := c == ' ' || c == '\t'
  let digits := ((chars.dropWhile isPadding).reverse.dropWhile isPadding).reverse
  if digits.head? == some '+' then none else Text.signed64? digits

/-- Where the reading of a path stands; characters read are latest first. -/
inductive PathScan
  | name (read : List Char)
  | index (read : List Char)
  | closed

/-- Steps are held latest first. -/
def pathStep (steps : List Step) : PathScan → Char → Option (List Step × PathScan)
  | .name read, c =>
    let next (scan : PathScan) : Option (List Step × PathScan) :=
      if read.isEmpty then none else some (.key (String.ofList read.reverse) :: steps, scan)
    if isPathChar c then some (steps, .name (c :: read))
    else if c = '.' then next (.name [])
    else if c = '[' then next (.index [])
    else none
  | .index read, c =>
    if c = ']' then (position? read.reverse).map fun i => (.index i :: steps, .closed)
    else some (steps, .index (c :: read))
  | .closed, c =>
    if c = '.' then some (steps, .name [])
    else if c = '[' then some (steps, .index [])
    else none

def pathEnd : List Step × PathScan → Option (List Step)
  | (_, .name []) => none
  | (steps, .name read) => some (.key (String.ofList read.reverse) :: steps).reverse
  | (_, .index _) => none
  | (steps, .closed) => some steps.reverse

/-- A key is a path when it is made of plain names and positions, and else one name as a whole. -/
def pathOf (key : String) : List Step :=
  let scanned := key.toList.foldlM (fun (steps, scan) c => pathStep steps scan c) ([], .name [])
  (scanned.bind pathEnd).getD [.key key]

def putLayer? (table : Table) (layer : List (String × Json)) : Option Table :=
  layer.foldlM (fun table (key, value) =>
    (putPath? value (some (.obj table)) (pathOf key)).map fun j => tableOf (some j)) table

/-- Layers written in order, and the outcome written once more as a layer of its own. A key that is
a path only in lower case, where the Kelvin sign is a plain letter, is a name the first time and a
path the second. -/
def merged? (layers : List (List (String × Json))) : Option Table :=
  (layers.foldlM putLayer? []).bind (putLayer? [])

def environmentPrefix : List Char := "k8s_metrics_".toList

/-- `__` separates the parts of a path. -/
def dotted : List Char → List Char
  | '_' :: '_' :: rest => '.' :: dotted rest
  | c :: rest => c :: dotted rest
  | [] => []

/-- The key that a variable sets, if it is one of the program's. -/
def environmentKey? (name : String) : Option String :=
  let name := (lower name).toList
  if environmentPrefix.isPrefixOf name then
    some (String.ofList (dotted (name.drop environmentPrefix.length)))
  else none

/-- Keys whose text, unless it reads as a scalar, is a list with commas. -/
def listKeys : List String := ["endpoints", "namespace_filter.include", "namespace_filter.exclude"]

/-- A variable's text is typed by what it reads as: a truth value, an integer, a number, else text. -/
def environmentValue (key text : String) : Json :=
  let chars := text.toList
  match lower text with
  | "true" => .bool true
  | "false" => .bool false
  | _ =>
    match Text.signed64? chars with
    | some n => .int n
    | none =>
      match Number.ofChars? chars with
      | some x => .float x
      | none =>
        if listKeys.contains key then
          .ofStrings ((Text.splitAt (· == ',') chars).map String.ofList)
        else .str text

def environmentLayer (environment : List (String × String)) : List (String × Json) :=
  environment.filterMap fun (name, text) =>
    (environmentKey? name).map fun key => (key, environmentValue key text)

/-- Scalars as settings see them: an integer beyond 64 signed bits is a number. -/
def scalarOf : Scalar → Scalar
  | .int n => if n < Nat.pow 2 63 then .int n else .float (.ofInt n)
  | s => s

def text? : Json → Option String
  | .scalar s =>
    match scalarOf s with
    | .null | .noText => none
    | .bool b => some (toString b)
    | .int n => some (toString n)
    | .float x => some x.settingText
    | .str s => some s
  | _ => none

/-- The truth value of a word, in any case. -/
def word? (s : String) : Option Bool :=
  if ["true", "on", "yes"].contains (lower s) then some true
  else if ["false", "off", "no"].contains (lower s) then some false
  else none

def maxUnsigned : Nat := Nat.pow 2 64 - 1

def unsigned? : Json → Option Nat
  | .scalar s =>
    match scalarOf s with
    | .null | .noText => none
    | .bool b => some b.toNat
    | .int n => if n < 0 then none else some n.toNat
    | .float x => some (x.clamp maxUnsigned)
    | .str s =>
      match word? s with
      | some b => some b.toNat
      | none => Text.unsigned64? s.toList
  | _ => none

def bool? : Json → Option Bool
  | .scalar s =>
    match scalarOf s with
    | .null | .noText => none
    | .bool b => some b
    | .int n => some (n ≠ 0)
    | .float x => some x.isNonzero
    | .str "1" => some true
    | .str "0" => some false
    | .str s => word? s
  | _ => none

def texts? : Json → Option (List String)
  | .arr items => items.mapM text?
  | _ => none

end KubeEntities.Settings
