import KubeEntities.Proofs.StateMetrics.Attributes
import KubeEntities.Proofs.StateMetrics.Naming

/-! The resources of a quota. A quota that is reported has one metric set for each resource that its
series name, in order, and under a type the set holds the last number of that resource and that
type (`cycle_quotas`). Numbers of other resources and of other quotas do not get there. -/

namespace KubeEntities.StateMetrics
open Fetcher

/-- What the metric set of a quota holds besides its numbers. -/
def quotaNames : List String :=
  [eventTypeKey, "displayName", "clusterName", "resourcequotaName", "namespaceName", "createdAt",
    "resource"]

theorem exists_series_of_keyedNumber? {label name : String} {series : List Series} {x : Number}
    (h : keyedNumber? label series name = some x) :
    ∃ s ∈ series, s.label? label = some name ∧ s.value.number? = some x := by
  obtain ⟨read, _⟩ := Option.filter_eq_some_iff.1 h
  obtain ⟨s, last, number⟩ := Option.bind_eq_some_iff.1 read
  have carries := List.find?_some last
  simp only [Bool.and_eq_true, beq_iff_eq] at carries
  exact ⟨s, List.mem_reverse.1 (List.mem_of_find?_eq_some last), carries.1, number⟩

variable {ctx : CycleContext} {families : List Family}

theorem find?_untilValues_of_not_mem {u : RawEntity} {x : Emission} {cluster key : String}
    (unmarked : x.identity.filtered = none) (free : key ∉ quotaNames) :
    ((resourceQuotaGroup.specs.take 4).foldl (Draft.fill x.groups u.group u.id)
      (x.opened cluster)).set.find? key = none := by
  have named : ∀ s ∈ resourceQuotaGroup.specs.take 4, s.name ∈ quotaNames := by
    simp [resourceQuotaGroup, attr, gauge, quotaNames]
  have scalar : ∀ s ∈ resourceQuotaGroup.specs.take 4, s.fetch.IsScalar := by
    simp [resourceQuotaGroup, attr, gauge]
  have avoid (s : Spec) (hs : s ∈ resourceQuotaGroup.specs.take 4) : s.Avoids key :=
    Spec.avoids_of_scalar (scalar s hs) (ne_of_mem_of_not_mem (named s hs) free)
  have other : key ∉ [eventTypeKey, "displayName", "clusterName"] :=
    fun listed => free (List.mem_append_left _ listed)
  rw [Draft.find?_foldl_fill x.groups avoid, x.find?_opened_eq_none cluster unmarked other]

theorem find?_draft_of_resource {u : RawEntity}
    (visited : u ∈ (populationOf ctx families).rawEntities) {x : Emission}
    (emitted : x ∈ ((populationOf ctx families).fate u).emissions)
    (quota : u.group = "resourcequota") {resource : String}
    (stored : x.groups.metric u.group u.id "kube_resourcequota" =
      .ok (.slice (resourceSeries families u.id resource)))
    {key : String} (named : key ≠ "") (free : key ∉ quotaNames) :
    (x.draft ctx.cluster).set.find? key =
      (keyedNumber? "type" (resourceSeries families u.id resource) key).map .number := by
  have unmarked : x.identity.filtered = none :=
    PopulationRun.filtered_of_identity _ u (PopulationRun.emits_of_mem emitted).resolved
      (by rw [quota]; decide)
  rw [draft_of_quota visited emitted quota, Draft.find?_fill_keyed stored rfl named,
    find?_untilValues_of_not_mem unmarked free, Option.or_none]
  rfl

/-- A quota that is reported has a metric set for each of its resources, in their order. Under a
type that is not one of its own names the set of a resource holds the last number of its series of
that type, if that number is finite, and nothing otherwise, so never a number of another resource or
of another quota. -/
theorem cycle_quotas (ctx : CycleContext) (integration version : String)
    (families : List Family) :
    let cycle := dataSource.cycle ctx families (.create integration version)
    ∀ e ∈ cycle.payload.entities, ∀ start, e.type = start ++ ":resourcequota" →
      ∃ resources : List String, resources.Pairwise (· < ·) ∧
        resources.Perm (resourcesOf families e.name) ∧
        List.Forall₂ (fun resource set => ∀ key, key ≠ "" → key ∉ quotaNames →
          set.find? key =
            (keyedNumber? "type" (resourceSeries families e.name resource) key).map .number ∧
          ∀ stored ∈ set.find? key, ∃ s ∈ quotaSeries families e.name,
            s.label? "resource" = some resource ∧ s.label? "type" = some key ∧
              s.value.number?.map .number = some stored) resources e.metricSets := by
  intro cycle e he start ends
  have he : e ∈ ((populationOf ctx families).populate (.create integration version)).2.entities :=
    cycle_payload ctx families _ ▸ he
  obtain ⟨u, visited, quota, spec, named, ⟨x, emitted, _, _⟩, sets⟩ :=
    exists_unit_of_type find?_resourceQuota (fun same => absurd same (by decide)) he ends
  have id : u.id = e.name := by
    have itself := named.identified
    rwa [if_pos (by decide)] at itself
  refine ⟨_, SortedMap.pairwise_keys _,
    keys_partitionByLabel_perm "resource" (quotaSeries families e.name), ?_⟩
  have each := metrics_of_quota visited quota (PopulationRun.emits_of_mem emitted)
  rw [id] at each
  rw [sets, List.forall₂_map_right_iff]
  refine each.imp fun resource y ⟨emitted', stored⟩ key keyed free => ?_
  have held := find?_draft_of_resource visited emitted' quota (id.symm ▸ stored) keyed free
  rw [id] at held
  refine ⟨held, fun stored' there => ?_⟩
  obtain ⟨number, read, rfl⟩ := Option.map_eq_some_iff.1 (held.symm.trans there)
  obtain ⟨s, hs, labelled, value⟩ := exists_series_of_keyedNumber? read
  obtain ⟨own, carried⟩ := mem_seriesWith.1 hs
  exact ⟨s, own, carried, labelled, by rw [value]; rfl⟩

theorem cycle_quotas_repeated :
    let quota (name resource type : String) (value : Value) : Series :=
      ⟨.ofList [("namespace", "web"), ("resourcequota", name), ("resource", resource),
        ("type", type)], value⟩
    let created (name : String) : Series :=
      ⟨.ofList [("namespace", "web"), ("resourcequota", name)], .gauge (.ofInt 1)⟩
    let families : List Family := [
      ⟨"kube_resourcequota_created", .gauge, [created "a", created "b"]⟩,
      ⟨"kube_resourcequota", .gauge, [
        quota "a" "pods" "hard" (.gauge (.ofInt 10)), quota "b" "pods" "hard" (.gauge (.ofInt 7)),
        quota "a" "cpu" "hard" (.gauge .nan), quota "a" "pods" "hard" (.gauge (.ofInt 12)),
        quota "a" "pods" "hard" .absent]⟩]
    let ctx : CycleContext := { cluster := "c", k8sVersion := "1.30" }
    let cycle := dataSource.cycle ctx families (.create "ksm" "1")
    keyedNumber? "type" (resourceSeries families "web_a" "pods") "hard" = some (.ofInt 12) ∧
    keyedNumber? "type" (resourceSeries families "web_a" "cpu") "hard" = none ∧
    ∃ e ∈ cycle.payload.entities, e.name = "web_a" ∧ e.type = "c:web" ++ ":resourcequota" ∧
      ∃ resources : List String, resources.Pairwise (· < ·) ∧
        resources.Perm (resourcesOf families "web_a") ∧
        List.Forall₂ (fun resource set => set.find? "hard" =
          (keyedNumber? "type" (resourceSeries families "web_a" resource) "hard").map .number)
          resources e.metricSets := by
  intro quota created families ctx cycle
  have reported : ∃ e ∈ cycle.payload.entities,
      e.name = "web_a" ∧ e.type = "c:web" ++ ":resourcequota" := by
    decide +kernel
  obtain ⟨e, he, name, type⟩ := reported
  obtain ⟨resources, sorted, all, each⟩ := cycle_quotas ctx "ksm" "1" families e he "c:web" type
  rw [name] at all each
  refine ⟨by decide +kernel, by decide +kernel, e, he, name, type, resources, sorted, all, ?_⟩
  exact each.imp fun _ _ held => (held "hard" (by decide) (by decide)).1

end KubeEntities.StateMetrics
