import KubeEntities.Raw

/-! Splitting an entity by a label of its sliceable metric. Every label value gives one sub-entity,
which keeps the other metrics whole and of the slice the series with that value; series without the
label are dropped. -/

namespace KubeEntities

/-- The label values in order, each with its series in their order. -/
def partitionByLabel (label : String) (series : List Series) : SortedMap (List Series) :=
  series.foldl (fun parts s =>
    match s.label? label with
    | none => parts
    | some value => parts.upsert value fun before => before.getD [] ++ [s]) ∅

def RawMetrics.split (raw : RawMetrics) (sliceMetric label : String) :
    Except ResolveError (SortedMap RawMetrics) :=
  match raw.find? sliceMetric with
  | none => .error (.metricNotFound sliceMetric)
  | some (.single _) => .error (.shapeMismatch sliceMetric .sliceable)
  | some (.slice series) =>
    .ok ((partitionByLabel label series).map fun _ part => raw.insert sliceMetric (.slice part))

end KubeEntities
