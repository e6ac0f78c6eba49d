import KubeEntities.Proofs.Payload.Sets
import KubeEntities.Proofs.Population.Accounting

/-! Whose metric sets an entity holds. A payload that a run has filled holds what was emitted, under
the names and types of the raw entities that it was emitted for (`metricSets_of_mem_populate`). If
no two raw entities share a name and a type, then every entity holds the metric sets of one raw
entity, and all of them (`Separates.length_metricSets`). -/

namespace KubeEntities.PopulationRun

def ReportedAs (run : PopulationRun) (e : RawEntity) (name type : String) : Prop :=
  ∃ x ∈ (run.contribution e).placements, x.name = name ∧ x.type = type

/-- No entity of a payload mixes what was read off different raw entities, or off a raw entity and
the cluster. -/
structure Separates (run : PopulationRun) : Prop where
  units : ∀ u ∈ run.rawEntities, ∀ v ∈ run.rawEntities, ∀ name type,
    run.ReportedAs u name type → run.ReportedAs v name type → u = v
  cluster : ∀ u ∈ run.rawEntities, ∀ name, ¬ run.ReportedAs u name clusterEntityType

variable {run : PopulationRun} {integration version : String} {e : Entity}

theorem reportedAs_iff {u : RawEntity} {name type : String} :
    run.ReportedAs u name type ↔
      ∃ x ∈ (run.fate u).emissions, x.identity.name = name ∧ x.identity.type = type := by
  simp [ReportedAs, contribution_eq, Fate.placements_contribution, Emission.placement]

theorem metricSets_of_mem_populate
    (h : e ∈ (run.populate (.create integration version)).2.entities) :
    e.metricSets = ((run.emissions.map (Emission.placement run.cluster)).filter
        (·.is e.name e.type)).map (·.set) ++
      (((run.clusterShare (run.attempts.countP Write.isAccepted) integration
        version).placements).filter (·.is e.name e.type)).map (·.set) := by
  rw [payload_populate] at h
  rw [Payload.metricSets_of_mem_foldl_place h, List.filter_append, List.map_append]
  rfl

theorem clusterShare_filter {name type : String} (apart : type ≠ clusterEntityType)
    (accepted : Nat) :
    ((run.clusterShare accepted integration version).placements).filter (·.is name type) = [] := by
  rw [placements_clusterShare]
  split <;> simp [Placement.is, clusterPlacement, Ne.symm apart]

theorem emission_of_mem_metricSets
    (h : e ∈ (run.populate (.create integration version)).2.entities)
    (apart : e.type ≠ clusterEntityType) {set : MetricSet} (hs : set ∈ e.metricSets) :
    ∃ u ∈ run.rawEntities, ∃ x ∈ (run.fate u).emissions, x.identity.name = e.name ∧
      x.identity.type = e.type ∧ (x.draft run.cluster).set = set := by
  rw [metricSets_of_mem_populate h, clusterShare_filter apart, List.map_nil, List.append_nil] at hs
  obtain ⟨y, hy, rfl⟩ := List.mem_map.1 hs
  obtain ⟨hy, here⟩ := List.mem_filter.1 hy
  obtain ⟨x, emitted, rfl⟩ := List.mem_map.1 hy
  obtain ⟨u, visited, emitted⟩ := run.mem_emissions.1 emitted
  obtain ⟨name, type⟩ := Placement.is_eq_true.1 here
  exact ⟨u, visited, x, emitted, name, type, rfl⟩

theorem reportedAs_of_mem_populate
    (h : e ∈ (run.populate (.create integration version)).2.entities) :
    (∃ u ∈ run.rawEntities, run.ReportedAs u e.name e.type) ∨
      e.name = run.cluster ∧ e.type = clusterEntityType ∧
        (run.clusterShare (run.attempts.countP Write.isAccepted) integration version).placements =
          [run.clusterPlacement integration version] := by
  rw [payload_populate] at h
  rcases Payload.key_of_mem_foldl_place h with ⟨old, there, _⟩ | ⟨x, hx, name, type⟩
  · exact absurd there List.not_mem_nil
  · rcases List.mem_append.1 hx with hx | hx
    · obtain ⟨x, emitted, rfl⟩ := List.mem_map.1 hx
      obtain ⟨u, visited, emitted⟩ := run.mem_emissions.1 emitted
      exact .inl ⟨u, visited, reportedAs_iff.2 ⟨x, emitted, name, type⟩⟩
    · rw [placements_clusterShare] at hx ⊢
      split at hx
      · exact absurd hx List.not_mem_nil
      · rename_i added
        cases List.mem_singleton.1 hx
        exact .inr ⟨name.symm, type.symm, if_neg added⟩

section
variable {u : RawEntity} (visited : u ∈ run.rawEntities)
include visited

theorem emissions_filter {name type : String} (reported : run.ReportedAs u name type)
    (alone : ∀ v ∈ run.rawEntities, run.ReportedAs v name type → v = u) :
    (run.emissions.map (Emission.placement run.cluster)).filter (·.is name type) =
      (run.fate u).emissions.map (Emission.placement run.cluster) := by
  have own : ∀ v ∈ run.rawEntities,
      ∀ x ∈ (run.fate v).emissions.map (Emission.placement run.cluster),
      x.is name type = true → (v.group == u.group && v.id == u.id) = true := by
    intro v visited' x hx here
    obtain ⟨x, emitted, rfl⟩ := List.mem_map.1 hx
    have reported' := reportedAs_iff.2 ⟨x, emitted, Placement.is_eq_true.1 here⟩
    rw [alone v visited' reported']
    simp
  have all : ∀ x ∈ (run.fate u).emissions.map (Emission.placement run.cluster),
      x.is name type = true := by
    intro x hx
    obtain ⟨x, emitted, rfl⟩ := List.mem_map.1 hx
    obtain ⟨y, emitted', same⟩ := reportedAs_iff.1 reported
    rw [← ((emits_of_mem emitted').own x emitted).2.1] at same
    exact Placement.is_eq_true.2 same
  rw [emissions, List.map_flatMap, filter_flatMap_of_imp own, rawEntities_filter_of_mem visited]
  simpa using List.filter_eq_self.2 all

theorem metricSets_of_alone (h : e ∈ (run.populate (.create integration version)).2.entities)
    (apart : e.type ≠ clusterEntityType) (reported : run.ReportedAs u e.name e.type)
    (alone : ∀ v ∈ run.rawEntities, run.ReportedAs v e.name e.type → v = u) :
    e.metricSets = (run.fate u).emissions.map fun x => (x.draft run.cluster).set := by
  rw [metricSets_of_mem_populate h, clusterShare_filter apart,
    emissions_filter visited reported alone]
  simp [Emission.placement]

end

namespace Separates

theorem length_metricSets (h : run.Separates)
    (he : e ∈ (run.populate (.create integration version)).2.entities) :
    (e.name = run.cluster ∧ e.type = clusterEntityType ∧ e.metricSets.length = 1) ∨
      ∃ u ∈ run.rawEntities, run.ReportedAs u e.name e.type ∧
        e.metricSets.length = u.setCount := by
  have sets := metricSets_of_mem_populate he
  rcases reportedAs_of_mem_populate he with ⟨u, visited, reported⟩ | ⟨name, type, added⟩
  · have apart : e.type ≠ clusterEntityType := fun same =>
      h.cluster u visited e.name (same ▸ reported)
    obtain ⟨x, emitted, _⟩ := reportedAs_iff.1 reported
    have alone : ∀ v ∈ run.rawEntities, run.ReportedAs v e.name e.type → v = u :=
      fun v visited' reported' => h.units v visited' u visited e.name e.type reported' reported
    refine .inr ⟨u, visited, reported, ?_⟩
    rw [metricSets_of_alone visited he apart reported alone, List.length_map,
      (emits_of_mem emitted).length]
  · have unemitted : (run.emissions.map (Emission.placement run.cluster)).filter
        (·.is e.name e.type) = [] := by
      rw [List.filter_eq_nil_iff]
      intro x hx here
      obtain ⟨x, emitted, rfl⟩ := List.mem_map.1 hx
      obtain ⟨u, visited, emitted⟩ := run.mem_emissions.1 emitted
      have reported := reportedAs_iff.2 ⟨x, emitted, Placement.is_eq_true.1 here⟩
      exact h.cluster u visited e.name (type ▸ reported)
    rw [unemitted, added] at sets
    refine .inl ⟨name, type, ?_⟩
    rw [sets]
    simp [Placement.is, clusterPlacement, name, type]

end Separates

end KubeEntities.PopulationRun
