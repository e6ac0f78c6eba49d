import KubeEntities.Proofs.Grouping.Stored
import KubeEntities.Proofs.StateMetrics.Placements

/-! What a cycle has stored of an object: of a metric that is not sliced, the last of its series
that the queries keep. -/

namespace KubeEntities.StateMetrics
variable {ctx : CycleContext} {families : List Family}

theorem find?_populationOf {group metric : String} {g : SpecGroup}
    (declared : specs.find? group = some g) (whole : g.sliceMetric group ≠ some metric)
    (id : String) :
    ((populationOf ctx families).groups.entity? group id).bind (·.find? metric) =
      (seriesOf (select queries families) group id metric).getLast?.map .single := by
  have stored := specs.stored_group (select queries families) group id metric
  simp only [declared, Option.bind_some, storedOf?, if_neg whole] at stored
  exact stored

theorem metric_of_visited {u : RawEntity} (visited : u ∈ (populationOf ctx families).rawEntities)
    {metric : String} (whole : u.spec.sliceMetric u.group ≠ some metric) :
    (populationOf ctx families).groups.metric u.group u.id metric =
      match (seriesOf (select queries families) u.group u.id metric).getLast? with
      | some s => .ok (.single s)
      | none => .error (.metricNotFound metric) := by
  obtain ⟨declared, there⟩ := PopulationRun.mem_rawEntities.1 visited
  have stored : ((populationOf ctx families).groups.entity? u.group u.id).bind
      (·.find? metric) = _ := find?_populationOf declared whole u.id
  rw [there, Option.bind_some] at stored
  simp only [RawGroups.metric, there, stored]
  cases (seriesOf (select queries families) u.group u.id metric).getLast? <;> rfl

end KubeEntities.StateMetrics
