import KubeEntities.Series
import KubeEntities.Text.Blank
import KubeEntities.Text.Quoted

/-! What a fetcher finds for one declared metric: a scalar, or a fan-out whose entries are written
as metrics of their own. The entries of a fan-out come in key order. -/

namespace KubeEntities

/-- How the backend interprets a written metric. -/
inductive SourceType
  | gauge
  | rate
  | delta
  | pdelta
  | attr
deriving DecidableEq

namespace SourceType

def all : List SourceType := [.gauge, .rate, .delta, .pdelta, .attr]

def name : SourceType → String
  | .gauge => "gauge"
  | .rate => "rate"
  | .delta => "delta"
  | .pdelta => "pdelta"
  | .attr => "attribute"

def ofName? (s : String) : Option SourceType := all.find? (·.name == s)

def isNumeric : SourceType → Bool
  | .attr => false
  | _ => true

end SourceType

inductive Fetched
  | value (v : Value)
  | text (s : String)
  | flag (b : Bool)
  /-- entries take the source type of their declaration -/
  | values (entries : List (String × Fetched))
  /-- every entry brings its own source type -/
  | typed (entries : List (String × Fetched × SourceType))

namespace Fetched

instance : Inhabited Fetched := ⟨.value .absent⟩

/-- The text shown when a value is refused. -/
def display : Fetched → String
  | .value .absent => "<no value>"
  | .value v => v.text
  | .text s => Text.quoted s
  | .flag b => toString b
  | .values entries => "<" ++ toString entries.length ++ " values>"
  | .typed entries => "<" ++ toString entries.length ++ " typed values>"

/-- Reading a scalar as a number: texts that spell one count, and flags are 1 and 0. -/
def number? : Fetched → Option Number
  | .value v => v.number?
  | .text s => Number.ofChars? (Text.trim s.toList)
  | .flag b => some (.ofInt (if b then 1 else 0))
  | .values _ | .typed _ => none

/-- Reading a scalar as text. -/
def text? : Fetched → Option String
  | .value v => v.number?.map Number.text
  | .text s => some s
  | .flag b => some (toString b)
  | .values _ | .typed _ => none

end Fetched
end KubeEntities
