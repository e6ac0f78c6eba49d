import KubeEntities.Proofs.Population.Values
import KubeEntities.Proofs.StateMetrics.Quotas
import KubeEntities.Proofs.StateMetrics.Writes

/-! The attributes that say what a metric set is of: its event type, the name of its entity and the
cluster. No metric goes by their names, except those of a quota, which go by the values of a label
of the scrape and so may stand in the place of an attribute (`cycle_attributes`). -/

namespace KubeEntities

/-- The attributes of a metric set from its start, under the names that metrics should not have. -/
def identityAttributes (eventType name cluster : String) : List (String × String) :=
  [(eventTypeKey, eventType), ("displayName", name), ("clusterName", cluster)]

theorem reserved_of_mem_identityAttributes {eventType name cluster : String} {a : String × String}
    (h : a ∈ identityAttributes eventType name cluster) :
    a.1 ∈ reservedNames ∧ a.1 ≠ Draft.filteredAttribute := by
  have named : a.1 ∈ [eventTypeKey, "displayName", "clusterName"] := List.mem_map_of_mem h
  have all : ∀ name ∈ [eventTypeKey, "displayName", "clusterName"],
      name ∈ reservedNames ∧ name ≠ Draft.filteredAttribute := by decide
  exact all a.1 named

theorem Emission.find?_opened (x : Emission) (cluster : String) {a : String × String}
    (h : a ∈ identityAttributes x.eventType x.identity.name cluster) :
    (x.opened cluster).set.find? a.1 = some (.text a.2) := by
  have unmarked := (reserved_of_mem_identityAttributes h).2
  have created : (MetricSet.create x.eventType
      [("displayName", x.identity.name), ("clusterName", cluster)]).find? a.1 =
        some (.text a.2) := by
    simp only [identityAttributes, List.mem_cons, List.not_mem_nil, or_false] at h
    rcases h with rfl | rfl | rfl <;>
      simp [MetricSet.create, SortedMap.find?_insert, SortedMap.find?_singleton, eventTypeKey]
  unfold opened
  cases x.identity.filtered with
  | none => exact created
  | some filtered =>
    rw [Option.elim_some, Draft.mark_eq, SortedMap.find?_insert, if_neg unmarked]
    exact created

theorem Emission.find?_opened_eq_none (x : Emission) (cluster : String)
    (unmarked : x.identity.filtered = none) {key : String}
    (other : key ∉ [eventTypeKey, "displayName", "clusterName"]) :
    (x.opened cluster).set.find? key = none := by
  simp only [List.mem_cons, List.not_mem_nil, or_false, not_or] at other
  simp [opened, unmarked, MetricSet.create, SortedMap.find?_insert, SortedMap.find?_singleton,
    other]

namespace StateMetrics
open Fetcher
variable {ctx : CycleContext} {families : List Family}

def quotaValues : Spec :=
  ⟨"quota", fromValuesKeyedByLabel "kube_resourcequota" "type", .gauge, false⟩

theorem find?_untilValues {u : RawEntity} {x : Emission} {cluster resource : String}
    (listed : resource ∈ resourcesOf families u.id)
    (stored : x.groups.metric u.group u.id "kube_resourcequota" =
      .ok (.slice (resourceSeries families u.id resource)))
    {a : String × String}
    (h : a ∈ ("resource", resource) :: identityAttributes x.eventType x.identity.name cluster) :
    ((resourceQuotaGroup.specs.take 4).foldl (Draft.fill x.groups u.group u.id)
      (x.opened cluster)).set.find? a.1 = some (.text a.2) := by
  rcases List.mem_cons.1 h with rfl | h
  · have filled : resourceSeries families u.id resource ≠ [] := seriesWith_ne_nil listed
    have read := Fetcher.labelOf_of_all stored filled fun s hs => (mem_seriesWith.1 hs).2
    exact Draft.find?_fill_label rfl rfl (by decide : "resource" ≠ "") read _
  · have reserved := (reserved_of_mem_identityAttributes h).1
    have avoid : ∀ s ∈ resourceQuotaGroup.specs.take 4, s.AvoidsReserved := by
      simp (disch := decide) [resourceQuotaGroup]
    rw [Draft.find?_foldl_fill x.groups fun s hs => avoid s hs a.1 reserved]
    exact x.find?_opened cluster h

section
variable {u : RawEntity} (visited : u ∈ (populationOf ctx families).rawEntities) {x : Emission}
  (emitted : x ∈ ((populationOf ctx families).fate u).emissions)
include visited emitted

theorem find?_draft_of_unsplit (other : u.group ≠ "resourcequota") {a : String × String}
    (h : a ∈ identityAttributes x.eventType x.identity.name ctx.cluster) :
    (x.draft ctx.cluster).set.find? a.1 = some (.text a.2) := by
  obtain ⟨declared, _⟩ := PopulationRun.mem_rawEntities.1 visited
  have own := ((PopulationRun.emits_of_mem emitted).own x emitted).1
  have reserved := (reserved_of_mem_identityAttributes h).1
  have avoid : ∀ s ∈ x.unit.spec.specs, s.Avoids a.1 := fun s hs =>
    avoidsReserved_of_declared declared other s (own ▸ hs) a.1 reserved
  rw [Emission.draft, Draft.find?_foldl_fill x.groups avoid, x.find?_opened ctx.cluster h]

theorem draft_of_quota (quota : u.group = "resourcequota") :
    x.draft ctx.cluster = Draft.fill x.groups u.group u.id
      ((resourceQuotaGroup.specs.take 4).foldl (Draft.fill x.groups u.group u.id)
        (x.opened ctx.cluster)) quotaValues := by
  have own := ((PopulationRun.emits_of_mem emitted).own x emitted).1
  rw [Emission.draft, own, spec_of_visited visited quota find?_resourceQuota]
  rfl

theorem find?_draft_of_quota (quota : u.group = "resourcequota") :
    ∃ resource ∈ resourcesOf families u.id,
      ∀ a ∈ ("resource", resource) :: identityAttributes x.eventType x.identity.name ctx.cluster,
        (x.draft ctx.cluster).set.find? a.1 =
          some ((keyedNumber? "type" (resourceSeries families u.id resource) a.1).elim
            (.text a.2) .number) := by
  obtain ⟨resource, listed, stored⟩ := metric_of_quota visited quota emitted
  refine ⟨resource, listed, fun a ha => ?_⟩
  have named : a.1 ≠ "" := by
    rcases List.mem_cons.1 ha with rfl | ha
    · exact (by decide : "resource" ≠ "")
    · have all : ∀ name ∈ reservedNames, name ≠ "" := by decide
      exact all a.1 (reserved_of_mem_identityAttributes ha).1
  rw [draft_of_quota visited emitted quota, Draft.find?_fill_keyed stored rfl named,
    find?_untilValues listed stored ha]
  cases found : keyedNumber? "type" (resourceSeries families u.id resource) a.1 <;>
    simp [RawValue.series, found]

end

/-- In a cycle every metric set of an object has the event type of its kind, the name of the object
and the cluster as texts. A metric set of a quota has under such a name, as under that of its
resource, a number instead if the scrape says so: that of the last series with a value of the quota
and the resource whose type is that name. -/
theorem cycle_attributes (ctx : CycleContext) (integration version : String)
    (families : List Family) :
    let run := populationOf ctx families
    let cycle := dataSource.cycle ctx families (.create integration version)
    ∀ e ∈ cycle.payload.entities, e.type ≠ PopulationRun.clusterEntityType →
      ∀ set ∈ e.metricSets, ∃ u ∈ run.rawEntities, run.ReportedAs u e.name e.type ∧
        ∃ eventType, (u.spec.guesser.getD ctx.guesser) u.group = .ok eventType ∧
          if u.group = "resourcequota" then
            ∃ resource ∈ resourcesOf families u.id,
              ∀ a ∈ ("resource", resource) :: identityAttributes eventType e.name ctx.cluster,
                set.find? a.1 =
                  some ((keyedNumber? "type" (resourceSeries families u.id resource) a.1).elim
                    (.text a.2) .number)
          else ∀ a ∈ identityAttributes eventType e.name ctx.cluster,
            set.find? a.1 = some (.text a.2) := by
  intro run cycle e he apart set hs
  obtain ⟨u, visited, x, emitted, name, type, rfl⟩ :=
    PopulationRun.emission_of_mem_metricSets he apart hs
  obtain ⟨_, _, titled⟩ := (PopulationRun.emits_of_mem emitted).own x emitted
  refine ⟨u, visited, PopulationRun.reportedAs_iff.2 ⟨x, emitted, name, type⟩, x.eventType,
    PopulationRun.guess_of_eventType titled, ?_⟩
  rw [← name]
  split
  · rename_i quota
    exact find?_draft_of_quota visited emitted quota
  · rename_i other
    exact fun a => find?_draft_of_unsplit visited emitted other

/-- A quota of a type named like the event type. -/
theorem cycle_attributes_replaced :
    let families : List Family := [
      ⟨"kube_resourcequota_created", .gauge, [
        ⟨.ofList [("namespace", "web"), ("resourcequota", "quota")],
          .gauge (.ofInt 1600000000)⟩]⟩,
      ⟨"kube_resourcequota", .gauge, [
        ⟨.ofList [("namespace", "web"), ("resourcequota", "quota"), ("resource", "pods"),
          ("type", "event_type")], .gauge (.ofInt 10)⟩]⟩]
    let ctx : CycleContext := { cluster := "c", k8sVersion := "1.30" }
    let run := populationOf ctx families
    let cycle := dataSource.cycle ctx families (.create "ksm" "1")
    ¬ ∀ e ∈ cycle.payload.entities, e.type ≠ PopulationRun.clusterEntityType →
      ∀ set ∈ e.metricSets, ∃ u ∈ run.rawEntities, run.ReportedAs u e.name e.type ∧
        ∃ eventType, (u.spec.guesser.getD ctx.guesser) u.group = .ok eventType ∧
          ∀ a ∈ identityAttributes eventType e.name ctx.cluster,
            set.find? a.1 = some (.text a.2) := by
  intro families ctx run cycle kept
  have replaced : ∃ e ∈ cycle.payload.entities, e.type ≠ PopulationRun.clusterEntityType ∧
      ∃ set ∈ e.metricSets, set.find? eventTypeKey = some (.number (.ofInt 10)) := by
    decide +kernel
  obtain ⟨e, he, apart, set, hs, number⟩ := replaced
  obtain ⟨u, _, _, eventType, _, held⟩ := kept e he apart set hs
  have text := held (eventTypeKey, eventType) List.mem_cons_self
  rw [number] at text
  cases text

end StateMetrics
end KubeEntities
