import KubeEntities.Proofs.Population.Located
import KubeEntities.Proofs.Population.RawEntities
import KubeEntities.Proofs.StateMetrics.Declarations

/-! The entities that a cycle places. A namespace or a node is placed under its raw ID and typed by
its kind; everything else is placed in the one namespace that all series of its raw entity name
(`type_of_placed`, `label?_of_holds`). -/

namespace KubeEntities.StateMetrics

def populationOf (ctx : CycleContext) (families : List Family) : PopulationRun :=
  ctx.populationRun (specs.group (select queries families)).groups specs

theorem population_dataSource (ctx : CycleContext) (families : List Family) :
    dataSource.population ctx families = populationOf ctx families := rfl

theorem cycle_payload (ctx : CycleContext) (families : List Family) (payload : Payload) :
    (dataSource.cycle ctx families payload).payload =
      ((populationOf ctx families).populate payload).2 := by
  rw [dataSource.payload_cycle, population_dataSource]

theorem cycle_populated (ctx : CycleContext) (families : List Family) (payload : Payload) :
    (dataSource.cycle ctx families payload).report.populated =
      ((populationOf ctx families).populate payload).1.populated := by
  rw [dataSource.report_cycle, population_dataSource]

theorem cycle_populateErrors (ctx : CycleContext) (families : List Family) (payload : Payload) :
    (dataSource.cycle ctx families payload).report.populateErrors =
      ((populationOf ctx families).populate payload).1.errors := by
  rw [dataSource.report_cycle, population_dataSource]

variable {ctx : CycleContext} {families : List Family}

theorem populationOf_filter (filter : Option (String → Bool)) :
    populationOf { ctx with filter } families = { populationOf ctx families with filter } := rfl

theorem entity?_populationOf (group id : String) :
    (populationOf ctx families).groups.entity? group id =
      (specs.find? group).bind fun g => rawOf? (g.sliceMetric group)
        ((namedSeries (select queries families)).filter (·.isOf group id)) :=
  entity?_group specs (select queries families) group id

theorem exists_holds_populationOf {group id : String} {raw : RawMetrics}
    (there : (populationOf ctx families).groups.entity? group id = some raw) :
    ∃ s, (populationOf ctx families).groups.Holds group id s :=
  RawGroups.exists_holds there

theorem spec_of_visited {u : RawEntity} (visited : u ∈ (populationOf ctx families).rawEntities)
    {kind : String} (named : u.group = kind) {g : SpecGroup} (declared : specs.find? kind = some g) :
    u.spec = g := by
  have own := (PopulationRun.mem_rawEntities.1 visited).1
  exact Option.some.inj (own.symm.trans (named ▸ declared))

section
variable (names : HasNamespaceNames families)
include names

theorem names_of_mem_select {x : NamedSeries} (h : x ∈ namedSeries (select queries families)) :
    ∀ ns ∈ x.series.label? namespaceLabel, IsNamespaceName ns := by
  obtain ⟨f, hf, inside⟩ := exists_family_of_mem_select h
  exact names f hf x.series inside

theorem holds_populationOf {group id : String} {s : Series}
    (h : (populationOf ctx families).groups.Holds group id s) :
    rawEntityId? group s = some id ∧ ∀ ns ∈ s.label? namespaceLabel, IsNamespaceName ns := by
  obtain ⟨found, x, hx, rfl⟩ := RawGroups.holds_group h
  exact ⟨found, names_of_mem_select names hx⟩

theorem label?_of_holds {ns group id : String} (name : IsNamespaceName ns) (filled : ns ≠ "")
    (own : BelongsTo ns group id) {s : Series}
    (h : (populationOf ctx families).groups.Holds group id s) :
    s.label? namespaceLabel = some ns := by
  obtain ⟨found, named⟩ := holds_populationOf names h
  exact label?_of_belongsTo name filled named found own

theorem fromLabel_of_belongsTo {ns group id : String} {raw : RawMetrics} (name : IsNamespaceName ns)
    (filled : ns ≠ "") (own : BelongsTo ns group id)
    (there : (populationOf ctx families).groups.entity? group id = some raw) :
    NamespaceGetter.fromLabel group id (populationOf ctx families).groups = ns := by
  obtain ⟨s, held⟩ := exists_holds_populationOf there
  exact NamespaceGetter.fromLabel_eq held filled fun s held =>
    label?_of_holds names name filled own held

variable {e : RawEntity} (visited : e ∈ (populationOf ctx families).rawEntities)
include visited

theorem type_of_placed {x : Placement}
    (h : x ∈ ((populationOf ctx families).contribution e).placements) :
    (isClusterWide e.group = true ∧ x.name = e.id ∧ x.type = ctx.cluster ++ ":" ++ e.group) ∨
      ∃ ns, IsNamespaceName ns ∧ ns ≠ "" ∧ e.group ∈ containerLabel :: namespacedKinds ∧
        BelongsTo ns e.group e.id ∧ LivesIn ctx.cluster ns x.type := by
  obtain ⟨declared, _⟩ := PopulationRun.mem_rawEntities.1 visited
  have kind := isObjectKind_of_declared declared
  obtain ⟨_, identity, resolved, name, type, _⟩ := PopulationRun.placesOn_contribution _ e h
  obtain ⟨named, typed⟩ := PopulationRun.identity_eq_ok _ e resolved
  obtain ⟨metric, labels⟩ := kind.type
  rw [labels] at typed
  have read := TypeGenerator.fromLabels_eq_ok typed
  cases wide : isClusterWide e.group with
  | true =>
    rw [if_pos wide] at read
    have kept : e.id = identity.name := by
      simpa [PopulationRun.entityName, kind.unnamed wide] using named
    exact .inl ⟨rfl, name.trans kept.symm, type.trans read⟩
  | false =>
    rw [wide, if_neg (by simp)] at read
    obtain ⟨ns, filled, ⟨s, held, labelled⟩, read⟩ := read
    have inside := kind.kind.resolve_left (by simp [wide])
    obtain ⟨found, named⟩ := holds_populationOf names held
    have own := belongsTo_of_label? inside found labelled
    refine .inr ⟨ns, named ns labelled, filled, inside, own, ?_⟩
    rw [type]
    split at read
    · rename_i container
      obtain ⟨pod, read⟩ := read
      exact .inr ⟨pod, by rw [read, container]; rfl⟩
    · rename_i other
      exact .inl ⟨e.group, (List.mem_cons.1 inside).resolve_left other, read⟩

theorem refusedNamespace?_of_belongsTo {ns : String} {allows : String → Bool}
    (filter : ctx.filter = some allows) (name : IsNamespaceName ns) (filled : ns ≠ "")
    (own : BelongsTo ns e.group e.id) :
    (populationOf ctx families).refusedNamespace? e = if allows ns then none else some ns := by
  obtain ⟨declared, there⟩ := PopulationRun.mem_rawEntities.1 visited
  have getter := (isObjectKind_of_declared declared).namespaceOf
  rw [if_neg own.ne_node] at getter
  have looked := fromLabel_of_belongsTo names name filled own there
  have filter : (populationOf ctx families).filter = some allows := filter
  simp only [PopulationRun.refusedNamespace?, getter, filter, looked]

end

end KubeEntities.StateMetrics
