import KubeEntities.Fetched
import KubeEntities.Grouping

/-! Fetchers: functions from an entity of a snapshot to a value. Failing and finding nothing are
different outcomes; the second is never an error. -/

namespace KubeEntities

/-- Takes the group and the raw ID of the entity. -/
abbrev Fetcher := String → String → RawGroups → Except ResolveError (Option Fetched)

namespace Fetcher

/-- The first series stored, whatever the shape. -/
def firstSeries (key : String) (raw : RawValue) : Except ResolveError Series :=
  match raw.series with
  | [] => .error (.metricNotFound key)
  | s :: _ => .ok s

/-- The number of a metric with a single series; nothing if it carries none. -/
def fromValue (metric : String) : Fetcher := fun group id groups => do
  match ← groups.metric group id metric with
  | .slice _ => .error (.shapeMismatch metric .single)
  | .single s => return if s.value.isAbsent then none else some (.value s.value)

def labelOf (metric label group id : String) (groups : RawGroups) : Except ResolveError String := do
  let s ← firstSeries metric (← groups.metric group id metric)
  match s.label? label with
  | none => .error (.labelNotFound metric label)
  | some value => return value

/-- One label of a metric's first series. -/
def fromLabel (metric label : String) : Fetcher := fun group id groups => do
  return some (.text (← labelOf metric label group id groups))

def keyedSourceType (v : Value) : SourceType := if v.isCounter then .rate else .gauge

/-- The values of a label among the series, each with the last number under it. -/
def keyedValues (label : String) (series : List Series) : SortedMap (Fetched × SourceType) :=
  .ofList <| series.filterMap fun s =>
    match s.label? label with
    | none => none
    | some key => if s.value.isAbsent then none else some (key, .value s.value, keyedSourceType s.value)

/-- Every series of a metric, keyed by the value of a label. Counters are written as rates,
everything else as gauges. -/
def fromValuesKeyedByLabel (metric label : String) : Fetcher := fun group id groups => do
  let series := (← groups.metric group id metric).series
  if series.any fun s => (s.label? label).isSome then
    let values := keyedValues label series
    return if values.isEmpty then none else some (.typed values.entries)
  else .error (.labelNotFound metric label)

/-- A label that is present and not empty. -/
def nonEmptyLabel? (s : Series) (label : String) : Option String :=
  match s.label? label with
  | some "" => none
  | other => other

/-- The raw ID of the parent that a series points to. -/
def parentIdOf? (parent : String) (s : Series) : Option String :=
  if isClusterWide parent then nonEmptyLabel? s parent
  else
    match nonEmptyLabel? s namespaceLabel, nonEmptyLabel? s parent with
    | some ns, some name => some (ns ++ "_" ++ name)
    | _, _ => none

/-- Read off the first series of the child that points to a parent at all. -/
def parentId (parent group id : String) (groups : RawGroups) : Except ResolveError String := do
  match (← groups.entity group id).series.findSome? (parentIdOf? parent) with
  | none => .error (.parentNotFound parent group id)
  | some parentId => return parentId

def parentSeries (parent metric group id : String) (groups : RawGroups) :
    Except ResolveError Series := do
  let parentId ← parentId parent group id groups
  firstSeries metric (← groups.metric parent parentId metric)

def labelPrefix : List Char := "label_".toList

/-- The metric name of an inherited label: `label.` and the name without a leading `label_`. -/
def inheritedName (label : String) : String :=
  "label." ++ (if labelPrefix.isPrefixOf label.toList then
    String.ofList (label.toList.drop labelPrefix.length) else label)

def inheritedLabels (labels : Labels) : SortedMap Fetched :=
  .ofList (labels.entries.map fun (name, value) => (inheritedName name, .text value))

/-- Every label of the parent's metric. -/
def inheritAll (parent metric : String) : Fetcher := fun group id groups => do
  let s ← parentSeries parent metric group id groups
  return some (.values (inheritedLabels s.labels).entries)

/-- Chosen labels of the parent's metric; `names` maps the name that is written to the label that is
read. -/
def inheritSome (parent metric : String) (names : SortedMap String) : Fetcher :=
  fun group id groups => do
    let s ← parentSeries parent metric group id groups
    let entries ← names.entries.mapM fun (name, label) =>
      match s.label? label with
      | none => Except.error (ResolveError.labelNotFound metric label)
      | some value => Except.ok (name, Fetched.text value)
    return some (.values entries)

end Fetcher
end KubeEntities
