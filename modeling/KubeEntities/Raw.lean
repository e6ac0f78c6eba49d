import KubeEntities.Series
import KubeEntities.Text.Quoted

/-! Raw data of entities: what grouping found, keyed by group label, raw entity ID and metric name.
Everything that names, types or fills an entity reads this snapshot and nothing else; the ways in
which reading it can fail are collected here too. -/

namespace KubeEntities

/-- The series of one metric of one entity. -/
inductive RawValue
  | single (s : Series)
  /-- every series of a sliceable metric -/
  | slice (series : List Series)
deriving DecidableEq

abbrev RawMetrics := SortedMap RawValue

abbrev RawGroups := SortedMap (SortedMap RawMetrics)

/-- Group labels with rules of their own for identity. -/
def namespaceLabel : String := "namespace"
def nodeLabel : String := "node"
def podLabel : String := "pod"
def containerLabel : String := "container"

/-- Groups whose entities need no namespace to tell them apart. -/
def isClusterWide (group : String) : Bool := group == namespaceLabel || group == nodeLabel

inductive Shape
  | single
  | labeled
  | sliceable
deriving DecidableEq

inductive ResolveError
  | entityNotFound (group id : String)
  | metricNotFound (metric : String)
  | labelNotFound (metric label : String)
  | emptyLabel (metric label : String)
  | parentNotFound (parent group id : String)
  | shapeMismatch (metric : String) (expected : Shape)
  | podScheduled (pod : String)
  | invalidGroupLabel (group : String)
deriving DecidableEq

def Shape.message : Shape → String
  | .single => "a single series"
  | .labeled => "a single labeled series"
  | .sliceable => "a sliceable metric"

open Text in
def ResolveError.message : ResolveError → String
  | .entityNotFound group id => "metrics not found for " ++ group ++ " with entity ID: " ++ id
  | .metricNotFound metric => "metric " ++ quoted metric ++ " not found"
  | .labelNotFound metric label =>
    "label " ++ quoted label ++ " not found in metric " ++ quoted metric
  | .emptyLabel metric label => "label " ++ quoted label ++ " of metric " ++ quoted metric ++ " is empty"
  | .parentNotFound parent group id =>
    "cannot resolve parent " ++ parent ++ " of " ++ group ++ " entity " ++ id
  | .shapeMismatch metric expected => "metric " ++ quoted metric ++ " is not " ++ expected.message
  | .podScheduled pod => "pod " ++ pod ++ " is already scheduled"
  | .invalidGroupLabel group =>
    "cannot derive a metric set type from group label " ++ quoted group

namespace RawValue

def series : RawValue → List Series
  | .single s => [s]
  | .slice series => series

def single? : RawValue → Option Series
  | .single s => some s
  | .slice _ => none

def slice? : RawValue → Option (List Series)
  | .single _ => none
  | .slice series => some series

end RawValue

/-- All series of an entity, by metric name. -/
def RawMetrics.series (raw : RawMetrics) : List Series := raw.values.flatMap RawValue.series

namespace RawGroups

def entity? (groups : RawGroups) (group id : String) : Option RawMetrics :=
  (groups.find? group).bind (·.find? id)

def entity (groups : RawGroups) (group id : String) : Except ResolveError RawMetrics :=
  match groups.entity? group id with
  | some raw => .ok raw
  | none => .error (.entityNotFound group id)

def metric (groups : RawGroups) (group id key : String) : Except ResolveError RawValue :=
  match groups.entity? group id with
  | none => .error (.entityNotFound group id)
  | some raw =>
    match raw.find? key with
    | none => .error (.metricNotFound key)
    | some value => .ok value

/-- The snapshot that holds one entity only. -/
def only (group id : String) (raw : RawMetrics) : RawGroups := .singleton group (.singleton id raw)

end RawGroups
end KubeEntities
