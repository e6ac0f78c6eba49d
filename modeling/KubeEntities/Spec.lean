import KubeEntities.Strategy.Identity

/-! Declarations of object kinds: which metrics an entity of a kind has, how it is named and typed,
where its namespace is found, and whether it is split by a label. -/

namespace KubeEntities

/-- One declared metric. Failures to fetch an optional one are not reported. -/
structure Spec where
  name : String
  fetch : Fetcher
  type : SourceType
  isOptional : Bool := false

def Spec.orNothing (s : Spec) : Spec := { s with isOptional := true }

/-- The sliceable metric is the group's own label unless it is named. -/
structure Split where
  label : String
  metric : Option String

structure SpecGroup where
  specs : List Spec
  type : TypeGenerator
  id : Option IdGenerator := none
  namespaceOf : Option NamespaceGetter := none
  guesser : Option Guesser := none
  split : Option Split := none

/-- One group for each label. -/
abbrev SpecTable := SortedMap SpecGroup

def Split.sliceMetric (s : Split) (group : String) : String := s.metric.getD group

def SpecGroup.sliceMetric (g : SpecGroup) (group : String) : Option String :=
  g.split.map (·.sliceMetric group)

def SpecTable.sliceMetrics (table : SpecTable) : SortedMap (Option String) :=
  table.map fun group g => g.sliceMetric group

/-- Groups families as a table declares. -/
def SpecTable.group (table : SpecTable) (families : List Family) : Grouped :=
  groupFamilies table.sliceMetrics families

end KubeEntities
