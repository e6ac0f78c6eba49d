import KubeEntities.Raw

/-! Grouping: series become raw entities. A series belongs to a group when it carries the group's
label, and its labels give the raw ID of the entity. Of a plain metric an entity keeps the last
series, of its group's sliceable metric all of them. -/

namespace KubeEntities

inductive GroupError
  | noData (group : String)
deriving DecidableEq

def GroupError.message : GroupError → String
  | .noData group => "no data found for " ++ group ++ " object"

/-- Namespaces and nodes are identified by their label alone, containers by namespace, pod and name,
anything else by namespace and name. A missing namespace counts as empty, except for containers,
which do not group without one. -/
def rawEntityId? (group : String) (s : Series) : Option String :=
  match s.label? group with
  | none => none
  | some value =>
    if isClusterWide group then some value
    else if group = containerLabel then
      match s.label? namespaceLabel, s.label? podLabel with
      | some ns, some pod => some (ns ++ "_" ++ pod ++ "_" ++ value)
      | _, _ => none
    else some ((s.label? namespaceLabel).getD "" ++ "_" ++ value)

/-- A series under the name of its metric. -/
structure NamedSeries where
  metric : String
  series : Series
deriving DecidableEq

def Family.namedSeries (f : Family) : List NamedSeries := f.series.map fun s => ⟨f.name, s⟩

def RawMetrics.add (sliceMetric : Option String) (raw : RawMetrics) (s : NamedSeries) : RawMetrics :=
  if sliceMetric = some s.metric then
    raw.upsert s.metric fun
      | some (.slice before) => .slice (before ++ [s.series])
      | _ => .slice [s.series]
  else raw.insert s.metric (.single s.series)

def addToEntities (group : String) (sliceMetric : Option String)
    (entities : SortedMap RawMetrics) (s : NamedSeries) : SortedMap RawMetrics :=
  match rawEntityId? group s.series with
  | none => entities
  | some id => entities.upsert id fun raw => (raw.getD ∅).add sliceMetric s

/-- The entities of one group. -/
def groupEntities (group : String) (sliceMetric : Option String) (families : List Family) :
    SortedMap RawMetrics :=
  (families.flatMap Family.namedSeries).foldl (addToEntities group sliceMetric) ∅

structure Grouped where
  groups : RawGroups
  errors : List GroupError

/-- One group for each declared label, given with its sliceable metric. A group without entities is
left out and reported. -/
def groupFamilies (declared : SortedMap (Option String)) (families : List Family) : Grouped :=
  let all := declared.map fun group sliceMetric => groupEntities group sliceMetric families
  { groups := all.filter fun _ entities => !entities.isEmpty
    errors := (all.filter fun _ entities => entities.isEmpty).keys.map .noData }

end KubeEntities
