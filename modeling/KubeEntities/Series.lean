import KubeEntities.Number.Text
import KubeEntities.SortedMap

/-! Scraped series: a label set and a value, and families of series that share a name. The kind of
a value records how the family was declared; series of a summary carry no number. -/

namespace KubeEntities

/-- Keys are unique and come in order. -/
abbrev Labels := SortedMap String

inductive Kind
  | counter
  | gauge
  | untyped
  | summary
deriving DecidableEq

inductive Value
  | counter (x : Number)
  | gauge (x : Number)
  | untyped (x : Number)
  | absent
deriving DecidableEq

structure Series where
  labels : Labels
  value : Value
deriving DecidableEq

structure Family where
  name : String
  kind : Kind
  series : List Series
deriving DecidableEq

namespace Kind

def all : List Kind := [.counter, .gauge, .untyped, .summary]

def name : Kind → String
  | .counter => "counter"
  | .gauge => "gauge"
  | .untyped => "untyped"
  | .summary => "summary"

def ofName? (s : String) : Option Kind := all.find? (·.name == s)

end Kind

namespace Value

def ofKind : Kind → Number → Value
  | .counter, x => .counter x
  | .gauge, x => .gauge x
  | .untyped, x => .untyped x
  | .summary, _ => .absent

def number? : Value → Option Number
  | .counter x | .gauge x | .untyped x => some x
  | .absent => none

def isCounter : Value → Bool
  | .counter _ => true
  | _ => false

/-- The text that value predicates compare: empty without a number. -/
def text (v : Value) : String :=
  match v.number? with
  | some x => x.text
  | none => ""

def isAbsent : Value → Bool
  | .absent => true
  | _ => false

end Value

namespace Series

def label? (s : Series) (name : String) : Option String := s.labels.find? name

/-- Every listed label is present with exactly the listed value. -/
def hasLabels (s : Series) (expected : Labels) : Bool :=
  expected.entries.all fun (name, value) => s.label? name == some value

end Series

namespace Family

/-- A family is usable once it has a name and a series. -/
def isValid (f : Family) : Bool := !f.name.isEmpty && !f.series.isEmpty

end Family
end KubeEntities
