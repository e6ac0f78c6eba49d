import KubeEntities.Number
import KubeEntities.SortedMap

/-! JSON trees. Members of an object keep their order and may repeat a key; a consumer that wants a
map says which member counts. JSON text can spell two things that have no value: a number beyond the
binary64 range, held as an infinity, and a string in which half a surrogate pair stands alone, held
as `noText`. They may stand where nobody reads them, and `isSound` finds them. -/

namespace KubeEntities

inductive Scalar
  | null
  | bool (b : Bool)
  | int (n : Int)
  | float (x : Number)
  | str (s : String)
  /-- a string that spells no text, or an object with such a key -/
  | noText
deriving DecidableEq

inductive Json
  | scalar (s : Scalar)
  | arr (items : List Json)
  | obj (members : List (String × Json))

namespace Json

instance : Inhabited Json := ⟨.scalar .null⟩

@[match_pattern] abbrev null : Json := .scalar .null
@[match_pattern] abbrev bool (b : Bool) : Json := .scalar (.bool b)
@[match_pattern] abbrev int (n : Int) : Json := .scalar (.int n)
@[match_pattern] abbrev float (x : Number) : Json := .scalar (.float x)
@[match_pattern] abbrev str (s : String) : Json := .scalar (.str s)
@[match_pattern] abbrev noText : Json := .scalar .noText

def ofMap (m : SortedMap Json) : Json := .obj m.entries

def ofStrings (l : List String) : Json := .arr (l.map .str)

def ofOption {α : Type} (f : α → Json) : Option α → Json
  | none => .null
  | some a => f a

/-- The first member with this key. -/
def get? : Json → String → Option Json
  | .obj members, key => members.lookup key
  | _, _ => none

mutual

/-- How many arrays and objects are open at the deepest place. -/
def depth : Json → Nat
  | .scalar _ => 0
  | .arr items => depthItems items + 1
  | .obj members => depthMembers members + 1

def depthItems : List Json → Nat
  | [] => 0
  | item :: rest => max item.depth (depthItems rest)

def depthMembers : List (String × Json) → Nat
  | [] => 0
  | (_, value) :: rest => max value.depth (depthMembers rest)

end

mutual

/-- Whether every number is finite and every string a text. -/
def isSound : Json → Bool
  | .scalar (.float x) => x.isFinite
  | .scalar .noText => false
  | .scalar _ => true
  | .arr items => isSoundItems items
  | .obj members => isSoundMembers members

def isSoundItems : List Json → Bool
  | [] => true
  | item :: rest => item.isSound && isSoundItems rest

def isSoundMembers : List (String × Json) → Bool
  | [] => true
  | (_, value) :: rest => value.isSound && isSoundMembers rest

end

mutual

/-- The tree with every object's keys in order, each once with its last value. -/
def normal : Json → Json
  | .scalar s => .scalar s
  | .arr items => .arr (normalItems items)
  | .obj members => .ofMap (normalMembers ∅ members)

def normalItems : List Json → List Json
  | [] => []
  | item :: rest => item.normal :: normalItems rest

def normalMembers (before : SortedMap Json) : List (String × Json) → SortedMap Json
  | [] => before
  | (key, value) :: rest => normalMembers (before.insert key value.normal) rest

end

end Json
end KubeEntities
