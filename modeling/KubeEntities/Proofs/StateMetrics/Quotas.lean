import KubeEntities.Proofs.Grouping.Stored
import KubeEntities.Proofs.Population.Separate
import KubeEntities.Proofs.StateMetrics.Placements

/-! Quotas. A quota is the one kind of object that is split: it has a metric set for each of its
resources (`setCount_of_visited`), and each is filled from the series of that resource alone, which
are those of the whole scrape (`metric_of_quota`). -/

namespace KubeEntities.StateMetrics

def quotaSeries (families : List Family) (quota : String) : List Series :=
  seriesOf families "resourcequota" quota "kube_resourcequota"

def resourcesOf (families : List Family) (quota : String) : List String :=
  labelValues "resource" (quotaSeries families quota)

def resourceSeries (families : List Family) (quota resource : String) : List Series :=
  seriesWith "resource" resource (quotaSeries families quota)

variable {ctx : CycleContext} {families : List Family}

theorem split_of_declared {group : String} {g : SpecGroup} (h : specs.find? group = some g) :
    g.split = if group = "resourcequota" then some ⟨"resource", some "kube_resourcequota"⟩
      else none := by
  refine forall_declared (P := fun group g => g.split = if group = "resourcequota" then
    some ⟨"resource", some "kube_resourcequota"⟩ else none) ?_ ?_ ?_ ?_ ?_ ?_ ?_ h <;> rfl

theorem slice_of_quota {u : RawEntity} (visited : u ∈ (populationOf ctx families).rawEntities)
    (quota : u.group = "resourcequota") :
    u.raw.slice "kube_resourcequota" = quotaSeries families u.id := by
  obtain ⟨declared, there⟩ := PopulationRun.mem_rawEntities.1 visited
  have split := split_of_declared declared
  rw [if_pos quota] at split
  have sliced : u.spec.sliceMetric u.group = some "kube_resourcequota" := by
    simp [SpecGroup.sliceMetric, split, Split.sliceMetric]
  have stored := specs.stored_group (select queries families) u.group u.id "kube_resourcequota"
  have selected : seriesOf (select queries families) u.group u.id "kube_resourcequota" =
      seriesOf families u.group u.id "kube_resourcequota" :=
    seriesOf_select (by decide) (by decide) families u.group u.id
  change ((populationOf ctx families).groups.entity? u.group u.id).bind _ =
    ((populationOf ctx families).specs.find? u.group).bind _ at stored
  rw [there, declared, Option.bind_some, Option.bind_some, sliced, selected, quota] at stored
  rw [RawMetrics.slice, stored, slice_storedOf?, quotaSeries]

theorem setCount_of_visited {u : RawEntity}
    (visited : u ∈ (populationOf ctx families).rawEntities) :
    u.setCount = if u.group = "resourcequota" then (resourcesOf families u.id).length else 1 := by
  have split := split_of_declared (PopulationRun.mem_rawEntities.1 visited).1
  unfold RawEntity.setCount
  rw [split]
  by_cases quota : u.group = "resourcequota"
  · rw [if_pos quota, if_pos quota, resourcesOf, ← slice_of_quota visited quota]
    rfl
  · rw [if_neg quota, if_neg quota]

theorem find?_resourceQuota : specs.find? "resourcequota" = some resourceQuotaGroup := by
  simp [specs, SortedMap.ofList, SortedMap.find?_insert]

theorem metrics_of_quota {u : RawEntity} (visited : u ∈ (populationOf ctx families).rawEntities)
    (quota : u.group = "resourcequota") {identity : Identity} {emissions : List Emission}
    (emits : PopulationRun.Emits (populationOf ctx families) u identity emissions) :
    List.Forall₂ (fun resource x => x ∈ emissions ∧
        x.groups.metric u.group u.id "kube_resourcequota" =
          .ok (.slice (resourceSeries families u.id resource)))
      (partitionByLabel "resource" (quotaSeries families u.id)).keys emissions := by
  have split := split_of_declared (PopulationRun.mem_rawEntities.1 visited).1
  rw [if_pos quota] at split
  have groups := PopulationRun.snapshots_of_split split emits.cut
  have sliced :
      u.raw.slice ((Split.mk "resource" (some "kube_resourcequota")).sliceMetric u.group) =
      quotaSeries families u.id := slice_of_quota visited quota
  dsimp only at groups
  rw [sliced, ← List.forall₂_eq_eq_eq, List.forall₂_map_left_iff, List.forall₂_map_right_iff]
    at groups
  have each := (List.forall₂_and_left _ _).2 ⟨fun x (hx : x ∈ emissions) => hx, groups⟩
  refine each.flip.imp fun resource x ⟨listed, held⟩ => ⟨listed, ?_⟩
  rw [held]
  exact RawGroups.metric_only ((SortedMap.find?_insert _ _ _ _).trans (if_pos rfl))

theorem metric_of_quota {u : RawEntity} (visited : u ∈ (populationOf ctx families).rawEntities)
    (quota : u.group = "resourcequota") {x : Emission}
    (emitted : x ∈ ((populationOf ctx families).fate u).emissions) :
    ∃ resource ∈ resourcesOf families u.id, x.groups.metric u.group u.id "kube_resourcequota" =
      .ok (.slice (resourceSeries families u.id resource)) := by
  obtain ⟨i, bound, rfl⟩ := List.mem_iff_getElem.1 emitted
  obtain ⟨length, each⟩ := List.forall₂_iff_get.1
    (metrics_of_quota visited quota (PopulationRun.emits_of_mem emitted))
  obtain ⟨_, stored⟩ := each i (length ▸ bound) bound
  exact ⟨_, mem_keys_partitionByLabel.1 (List.getElem_mem _), stored⟩

end KubeEntities.StateMetrics
