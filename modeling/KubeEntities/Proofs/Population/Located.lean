import KubeEntities.Proofs.Population.Attempts
import KubeEntities.Proofs.Strategy.Identity

/-! What a contribution can touch. A raw entity places metric sets on the entity of its own identity
only, without inventory, and whatever goes wrong with it is reported at its group and raw ID. The
last contribution of all is the cluster's, which is told apart by its type and its category. -/

namespace KubeEntities

def Contribution.ErrorsAt (group id : String) (c : Contribution) : Prop :=
  ∀ e, .failed e ∈ c.incidents → e.IsAt group id

namespace PopulationRun
variable (run : PopulationRun) (e : RawEntity)

theorem errorsAt_contribution : (run.contribution e).ErrorsAt e.group e.id := by
  intro error he
  rw [contribution_eq] at he
  cases fate : run.fate e with
  | refused ns =>
    rw [fate] at he
    exact nomatch List.mem_singleton.1 he
  | aborted cause again =>
    rw [fate] at he
    cases List.eq_of_mem_replicate he
    exact ⟨rfl, rfl⟩
  | emitted identity emissions =>
    rw [fate] at he
    obtain ⟨c, hc, inside⟩ := List.mem_flatMap.1 he
    obtain ⟨x, hx, rfl⟩ := List.mem_map.1 hc
    obtain ⟨error', reported, same⟩ := List.mem_map.1 inside
    cases same
    obtain ⟨rfl, -, -⟩ := (emits_of_fate fate).own x hx
    exact x.isAt_of_mem_errors (x.errors_draft run.cluster ▸ reported)

theorem identity_eq_ok {identity : Identity} (h : run.identity e = .ok identity) :
    run.entityName e = .ok identity.name ∧
      e.spec.type e.group e.id run.groups run.cluster = .ok identity.type := by
  obtain ⟨name, named, h⟩ := Except.bind_eq_ok h
  obtain ⟨type, typed, h⟩ := Except.bind_eq_ok h
  cases h
  exact ⟨named, typed⟩

theorem filtered_of_identity {identity : Identity} (h : run.identity e = .ok identity)
    (other : e.group ≠ namespaceLabel) : identity.filtered = none := by
  obtain ⟨name, _, h⟩ := Except.bind_eq_ok h
  obtain ⟨type, _, h⟩ := Except.bind_eq_ok h
  cases h
  simp [other]

theorem placesOn_contribution {x : Placement} (h : x ∈ (run.contribution e).placements) :
    (e.group = namespaceLabel ∨ run.refusedNamespace? e = none) ∧
      ∃ identity, run.identity e = .ok identity ∧ x.name = identity.name ∧
        x.type = identity.type ∧ x.items = [] ∧ x.name ≠ "" := by
  rw [contribution_eq, Fate.placements_contribution] at h
  obtain ⟨y, emitted, rfl⟩ := List.mem_map.1 h
  have emits := emits_of_mem emitted
  have named := name_ne_of_eventType (emits.own y emitted).2.2
  exact ⟨emits.admitted, y.identity, emits.resolved, rfl, rfl, rfl, named⟩

def clusterPlacement (integration version : String) : Placement where
  name := run.cluster
  type := clusterEntityType
  set := ((MetricSet.create clusterEventType []).insert "clusterName" (.text run.cluster)).insert
    "clusterK8sVersion" (.text run.k8sVersion)
  items := [("name", run.cluster), ("k8sVersion", run.k8sVersion),
    ("newrelic.integrationVersion", version), ("newrelic.integrationName", integration)].map
      fun (field, text) => (clusterCategory, field, .str text)

theorem clusterContribution_eq (integration version : String) :
    run.clusterContribution integration version =
      if run.cluster.isEmpty then .failed clusterCategory run.cluster (.sink .emptyEntityName)
      else ⟨[], [run.clusterPlacement integration version], 2⟩ := by
  unfold clusterContribution
  split
  · rfl
  · simp [Draft.write, MetricSet.set, MetricSet.stored?, SourceType.isNumeric, Fetched.text?,
      clusterPlacement]

def contributionOf (units : List RawEntity) (integration version : String) : Contribution :=
  let entities := Contribution.join (units.map run.contribution)
  if 0 < entities.written then entities.append (run.clusterContribution integration version)
  else entities

def lastContribution (units : List RawEntity) (integration version : String) : Contribution :=
  if 0 < (Contribution.join (units.map run.contribution)).written then
    run.clusterContribution integration version
  else .nothing

theorem contributionOf_eq_append (units : List RawEntity) (integration version : String) :
    run.contributionOf units integration version =
      (Contribution.join (units.map run.contribution)).append
        (run.lastContribution units integration version) := by
  by_cases any : 0 < (Contribution.join (units.map run.contribution)).written
  · simp only [contributionOf, lastContribution, any, if_true]
  · simp [contributionOf, lastContribution, any, Contribution.append, Contribution.nothing]

section
variable {units : List RawEntity} {integration version : String}

theorem type_of_mem_lastContribution {x : Placement}
    (h : x ∈ (run.lastContribution units integration version).placements) :
    x.type = clusterEntityType := by
  rw [lastContribution, clusterContribution_eq] at h
  split at h
  · split at h
    · exact absurd h List.not_mem_nil
    · cases List.mem_singleton.1 h
      rfl
  · exact absurd h List.not_mem_nil

variable (units integration version) in
theorem errorsAt_lastContribution :
    (run.lastContribution units integration version).ErrorsAt clusterCategory run.cluster := by
  intro error he
  rw [lastContribution, clusterContribution_eq] at he
  split at he
  · split at he
    · cases List.mem_singleton.1 he
      exact ⟨rfl, rfl⟩
    · exact absurd he List.not_mem_nil
  · exact absurd he List.not_mem_nil

end

end PopulationRun
end KubeEntities
