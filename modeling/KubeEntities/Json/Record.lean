import KubeEntities.Json

/-! Records and choices in JSON. A record is an object with known fields in any order, each at most
once, or an array of its fields in their declared order, possibly cut short. A choice is a name
alone, or an object whose one member names the choice. -/

namespace KubeEntities.Json

/-- The values of the named fields; unknown members are skipped. -/
def fields? (names : List String) : Json → Option (List (Option Json))
  | .obj members =>
    if names.all fun name => (members.filter fun m => m.1 == name).length ≤ 1 then
      some (names.map fun name => members.lookup name)
    else none
  | .arr items =>
    if items.length ≤ names.length then
      some (items.map some ++ List.replicate (names.length - items.length) none)
    else none
  | .scalar _ => none

/-- A choice and what it carries; a bare name carries nothing. -/
def choice? : Json → Option (String × Option Json)
  | .str name => some (name, none)
  | .obj [(name, content)] => some (name, some content)
  | _ => none

/-- A choice that carries nothing, or null. -/
def bareChoice? (j : Json) : Option String :=
  match j.choice? with
  | some (name, none) => some name
  | some (name, some .null) => some name
  | _ => none

/-- A finite number, whole or not. -/
def number? : Json → Option Number
  | .int n => some (.ofInt n)
  | .float x => if x.isFinite then some x else none
  | _ => none

def str? : Json → Option String
  | .str s => some s
  | _ => none

def items? : Json → Option (List Json)
  | .arr items => some items
  | _ => none

def strings? (j : Json) : Option (List String) := j.items?.bind (·.mapM str?)

def member? (m : String × Json) : Option (String × String) := m.2.str?.map fun text => (m.1, text)

/-- An object of texts; a repeated key keeps its last value. -/
def stringMap? : Json → Option (SortedMap String)
  | .obj members => (members.mapM member?).map .ofList
  | _ => none

end KubeEntities.Json
