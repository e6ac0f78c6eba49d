import KubeEntities.Cycle
import KubeEntities.Proofs.Grouping

/-! The raw entities that a run visits: those of the snapshot whose group is declared, each with its
declaration. Family lists that give some raw entities the same series give the same visits of
these (`filter_rawEntities_eq`). A cycle makes its payload and its report of such a run
(`payload_cycle`, `report_cycle`). -/

namespace KubeEntities

namespace PopulationRun

theorem rawEntities_eq_flatMap (run : PopulationRun) :
    run.rawEntities = run.groups.entries.flatMap fun g =>
      (run.specs.find? g.1).elim [] fun spec =>
        g.2.entries.map fun raw => ⟨g.1, spec, raw.1, raw.2⟩ := by
  unfold rawEntities
  congr 1
  funext ⟨group, entities⟩
  dsimp only
  cases run.specs.find? group <;> rfl

theorem mem_rawEntities {run : PopulationRun} {e : RawEntity} :
    e ∈ run.rawEntities ↔
      run.specs.find? e.group = some e.spec ∧ run.groups.entity? e.group e.id = some e.raw := by
  simp only [rawEntities_eq_flatMap, List.mem_flatMap, RawGroups.entity?]
  constructor
  · rintro ⟨⟨group, entities⟩, there, visited⟩
    cases declared : run.specs.find? group with
    | none => simp [declared] at visited
    | some spec =>
      simp only [declared, Option.elim, List.mem_map] at visited
      obtain ⟨⟨id, raw⟩, found, rfl⟩ := visited
      have grouped := SortedMap.find?_eq_some_iff.2 there
      exact ⟨declared, by simp [grouped, SortedMap.find?_eq_some_iff.2 found]⟩
  · rintro ⟨declared, found⟩
    obtain ⟨entities, grouped, found⟩ := Option.bind_eq_some_iff.1 found
    refine ⟨(e.group, entities), SortedMap.find?_eq_some_iff.1 grouped, ?_⟩
    simp only [declared, Option.elim, List.mem_map]
    exact ⟨(e.id, e.raw), SortedMap.find?_eq_some_iff.1 found, rfl⟩

theorem filter_rawEntities_at (run : PopulationRun) (group id : String) :
    run.rawEntities.filter (fun e => e.group == group && e.id == id) =
      ((run.specs.find? group).bind fun spec =>
        (run.groups.entity? group id).map fun raw => ⟨group, spec, id, raw⟩).toList := by
  unfold RawGroups.entity?
  rw [rawEntities_eq_flatMap,
    filter_flatMap_of_imp (q := fun g : String × SortedMap RawMetrics => g.1 == group),
    SortedMap.filter_key]
  · cases run.groups.find? group with
    | none => cases run.specs.find? group <;> rfl
    | some entities =>
      have one := entities.filter_key id
      cases declared : run.specs.find? group with
      | none => simp [declared]
      | some spec =>
        cases found : entities.find? id <;>
          simp [declared, found, List.filter_map, Function.comp_def, one]
  · rintro ⟨group', entities⟩ _ e he chosen
    cases declared : run.specs.find? group' with
    | none => simp [declared] at he
    | some spec =>
      simp only [declared, Option.elim, List.mem_map] at he
      obtain ⟨_, _, rfl⟩ := he
      simpa using (Bool.and_eq_true_iff.1 chosen).1

theorem rawEntities_filter_of_mem {run : PopulationRun} {u : RawEntity}
    (visited : u ∈ run.rawEntities) :
    run.rawEntities.filter (fun v => v.group == u.group && v.id == u.id) = [u] := by
  obtain ⟨declared, there⟩ := mem_rawEntities.1 visited
  simp [filter_rawEntities_at, declared, there]

theorem rawEntities_eq (run : PopulationRun) (families : List Family)
    (grouped : run.groups = (run.specs.group families).groups) :
    run.rawEntities = run.specs.entries.flatMap fun d =>
      (groupEntities d.1 (d.2.sliceMetric d.1) families).entries.map
        fun raw => ⟨d.1, d.2, raw.1, raw.2⟩ := by
  have visits (l : List (String × SpecGroup))
      (declared : ∀ d ∈ l, run.specs.find? d.1 = some d.2) :
      ((l.map fun d => (d.1, groupEntities d.1 (d.2.sliceMetric d.1) families)).filter
          fun g => !g.2.isEmpty).flatMap (fun g => (run.specs.find? g.1).elim [] fun spec =>
            g.2.entries.map fun raw => RawEntity.mk g.1 spec raw.1 raw.2) =
        l.flatMap fun d => (groupEntities d.1 (d.2.sliceMetric d.1) families).entries.map
          fun raw => ⟨d.1, d.2, raw.1, raw.2⟩ := by
    induction l with
    | nil => rfl
    | cons d l ih =>
      have rest := ih fun d' hd => declared d' (List.mem_cons_of_mem _ hd)
      have here := declared d List.mem_cons_self
      rw [List.map_cons, List.filter_cons, List.flatMap_cons, ← rest]
      cases vacant : (groupEntities d.1 (d.2.sliceMetric d.1) families).isEmpty with
      | false => simp [here]
      | true =>
        have none_found := List.isEmpty_iff.1 vacant
        simp [none_found]
  have all := visits run.specs.entries fun d hd => SortedMap.find?_eq_some_iff.2 hd
  rw [← all, rawEntities_eq_flatMap, grouped]
  simp only [SpecTable.group, groupFamilies, SpecTable.sliceMetrics, SortedMap.map,
    SortedMap.filter, List.map_map]
  rfl

theorem filter_rawEntities_eq (run run' : PopulationRun) (specs : run.specs = run'.specs)
    (families families' : List Family) (grouped : run.groups = (run.specs.group families).groups)
    (grouped' : run'.groups = (run'.specs.group families').groups) (own : String → String → Bool)
    (same : ∀ group id, own group id = true →
      (namedSeries families).filter (·.isOf group id) =
        (namedSeries families').filter (·.isOf group id)) :
    run.rawEntities.filter (fun e => own e.group e.id) =
      run'.rawEntities.filter fun e => own e.group e.id := by
  have entities (group : String) (sliceMetric : Option String) :
      (groupEntities group sliceMetric families).filter (fun id _ => own group id) =
        (groupEntities group sliceMetric families').filter fun id _ => own group id := by
    refine SortedMap.ext_find? fun id => ?_
    rw [SortedMap.find?_filter, SortedMap.find?_filter, find?_groupEntities, find?_groupEntities]
    cases chosen : own group id with
    | true => rw [same group id chosen]
    | false =>
      have dropped (raw? : Option RawMetrics) : raw?.filter (fun _ => false) = none :=
        Option.filter_eq_none_iff.2 fun _ _ => by simp
      rw [dropped, dropped]
  rw [run.rawEntities_eq families grouped, run'.rawEntities_eq families' grouped', specs,
    List.filter_flatMap, List.filter_flatMap]
  congr 1
  funext ⟨group, spec⟩
  have chosen := congrArg SortedMap.entries (entities group (spec.sliceMetric group))
  simp only [SortedMap.filter] at chosen
  rw [List.filter_map, List.filter_map]
  exact congrArg _ chosen

end PopulationRun

namespace DataSource
variable (source : DataSource) (ctx : CycleContext) (families : List Family) (payload : Payload)

def population : PopulationRun :=
  ctx.populationRun (source.specs.group (select source.queries families)).groups source.specs

theorem payload_cycle :
    (source.cycle ctx families payload).payload =
      ((source.population ctx families).populate payload).2 := rfl

theorem report_cycle :
    (source.cycle ctx families payload).report =
      let outcome := ((source.population ctx families).populate payload).1
      { dataSource := source.name
        populated := outcome.populated
        entities := outcome.entities
        metricsWritten := outcome.metricsWritten
        groupErrors := (source.specs.group (select source.queries families)).errors
        populateErrors := outcome.errors } := rfl

end DataSource
end KubeEntities
