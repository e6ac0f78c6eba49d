import KubeEntities.Proofs.Population.Selection
import KubeEntities.Proofs.StateMetrics.Placements
import KubeEntities.Proofs.StateMetrics.Writes

/-! The namespace filter never leaks (`cycle_filter`). The namespace that is tested, the one in the
type and the one in the raw ID are the same, so what is refused is not reported; namespaces and
nodes are reported as without a filter, except that each namespace is marked with the verdict. -/

namespace KubeEntities.StateMetrics

def namespaceUnit (ns : String) (raw : RawMetrics) : RawEntity :=
  ⟨namespaceLabel, namespaceGroup, ns, raw⟩

def namespaceIdentity (run : PopulationRun) (ns : String) (raw : RawMetrics) : Identity :=
  ⟨ns, run.cluster ++ ":" ++ namespaceLabel,
    run.filter.map fun _ => (run.refusedNamespace? (namespaceUnit ns raw)).isSome⟩

theorem identity_namespaceUnit (run : PopulationRun) (ns : String) (raw : RawMetrics) :
    run.identity (namespaceUnit ns raw) = .ok (namespaceIdentity run ns raw) := by
  have name : run.entityName (namespaceUnit ns raw) = .ok ns := rfl
  have type : namespaceGroup.type namespaceLabel ns run.groups run.cluster =
      .ok (run.cluster ++ ":" ++ namespaceLabel) := rfl
  unfold PopulationRun.identity PopulationRun.isSubjectToFilter namespaceIdentity
  rw [name]
  simp only [namespaceUnit, type]
  cases run.filter <;> rfl

theorem placements_namespaceUnit (run : PopulationRun) (ns : String) (raw : RawMetrics) :
    (run.contribution (namespaceUnit ns raw)).placements =
      (run.placement? (namespaceUnit ns raw) (namespaceIdentity run ns raw) run.groups).toList := by
  rw [run.contribution_of_namespace _ rfl, ← run.placements_setContribution]
  simp only [PopulationRun.admittedContribution, identity_namespaceUnit]
  rfl

theorem rawEntities_namespace (ctx : CycleContext) (families : List Family) (ns : String) :
    (populationOf ctx families).rawEntities.filter
        (fun e => e.group == namespaceLabel && e.id == ns) =
      (((populationOf ctx families).groups.entity? namespaceLabel ns).map
        (namespaceUnit ns)).toList := by
  have declared : (populationOf ctx families).specs.find? namespaceLabel = some namespaceGroup :=
    find?_namespaceLabel
  rw [PopulationRun.filter_rawEntities_at, declared]
  rfl

def namespacePlacement? (ctx : CycleContext) (families : List Family) (ns : String) :
    Option Placement :=
  let run := populationOf ctx families
  (run.groups.entity? namespaceLabel ns).bind fun raw =>
    run.placement? (namespaceUnit ns raw) (namespaceIdentity run ns raw) run.groups

theorem key_of_namespacePlacement? {ctx : CycleContext} {families : List Family} {ns : String}
    {x : Placement} (h : namespacePlacement? ctx families ns = some x) :
    x.name = ns ∧ x.type = ctx.cluster ++ ":" ++ namespaceLabel ∧ x.items = [] ∧ ns ≠ "" := by
  obtain ⟨raw, _, placed⟩ := Option.bind_eq_some_iff.1 h
  exact PopulationRun.key_of_placement? _ _ _ _ placed

theorem isSome_namespacePlacement? (ctx : CycleContext) (families : List Family) (ns : String)
    (filter : Option (String → Bool)) :
    (namespacePlacement? { ctx with filter } families ns).isSome =
      (namespacePlacement? ctx families ns).isSome := by
  simp only [namespacePlacement?]
  rw [populationOf_filter]
  cases (populationOf ctx families).groups.entity? namespaceLabel ns with
  | none => simp
  | some raw =>
    exact (populationOf ctx families).isSome_placement? (namespaceUnit ns raw)
      (namespaceIdentity (populationOf ctx families) ns raw) _ filter _

section
variable {ctx : CycleContext} {families : List Family} (names : HasNamespaceNames families)
include names

theorem covers_clusterWide {kind : String} (wide : isClusterWide kind = true)
    (chosen : String → Bool) :
    (populationOf ctx families).Covers (fun group id => group == kind && chosen id)
      (fun name type => chosen name && type == ctx.cluster ++ ":" ++ kind) where
  units := by
    intro e visited x hx kept
    simp only [Bool.and_eq_true, beq_iff_eq] at kept ⊢
    rcases type_of_placed names visited hx with ⟨_, name, type⟩ | ⟨ns, _, _, _, _, lives⟩
    · exact ⟨(String.append_right_inj _).1 (type.symm.trans kept.2), name ▸ kept.1⟩
    · rw [kept.2] at lives
      exact absurd lives (not_livesIn_of_clusterWide wide)
  cluster := fun _ => by simp [clusterEntityType_ne_of_clusterWide wide]

variable (ctx) in
theorem entities_namespace (integration version ns : String) :
    ((populationOf ctx families).populate (.create integration version)).2.entities.filter
        (·.is ns (ctx.cluster ++ ":" ++ namespaceLabel)) =
      (namespacePlacement? ctx families ns).toList.map
        fun x => ⟨ns, ctx.cluster ++ ":" ++ namespaceLabel, [x.set], ∅⟩ := by
  have wide : isClusterWide namespaceLabel = true := rfl
  have covers : (populationOf ctx families).Covers _ _ := covers_clusterWide names wide (· == ns)
  have chosen := congrArg Payload.entities
    (PopulationRun.select_populate covers (.create integration version))
  have placed : (((populationOf ctx families).groups.entity? namespaceLabel ns).map
      (namespaceUnit ns)).toList.flatMap
        (fun e => ((populationOf ctx families).contribution e).placements) =
      (namespacePlacement? ctx families ns).toList := by
    simp only [namespacePlacement?]
    cases (populationOf ctx families).groups.entity? namespaceLabel ns with
    | none => rfl
    | some raw => simp [placements_namespaceUnit]
  have is_eq : (fun e : Entity => e.is ns (ctx.cluster ++ ":" ++ namespaceLabel)) =
      fun e => e.name == ns && e.type == ctx.cluster ++ ":" ++ namespaceLabel := rfl
  rw [rawEntities_namespace, placed, Payload.entities_select, ← is_eq] at chosen
  rw [chosen]
  cases found : namespacePlacement? ctx families ns with
  | none => rfl
  | some x =>
    obtain ⟨name, type, bare, _⟩ := key_of_namespacePlacement? found
    have kept : (x.name == ns && x.type == ctx.cluster ++ ":" ++ namespaceLabel) = true := by
      simp [name, type]
    have alone := Payload.entities_place_create bare integration version
    rw [name, type] at alone
    rw [Option.toList_some, List.filter_cons, if_pos kept, List.filter_nil]
    exact alone

theorem verdict_of_reported {allows : String → Bool} (filter : ctx.filter = some allows)
    {integration version : String} {e : Entity}
    (h : e ∈ ((populationOf ctx families).populate (.create integration version)).2.entities)
    (type : e.type = ctx.cluster ++ ":" ++ namespaceLabel) :
    ∃ set, e.metricSets = [set] ∧ set.find? Draft.filteredAttribute =
      some (.text (if allows e.name then "false" else "true")) := by
  have itself : e.is e.name (ctx.cluster ++ ":" ++ namespaceLabel) = true :=
    Entity.is_eq_true.2 ⟨rfl, type⟩
  have listed : e ∈ (namespacePlacement? ctx families e.name).toList.map
      fun x => ⟨e.name, ctx.cluster ++ ":" ++ namespaceLabel, [x.set], ∅⟩ := by
    rw [← entities_namespace ctx names integration version e.name]
    exact List.mem_filter.2 ⟨h, itself⟩
  obtain ⟨x, hx, made⟩ := List.mem_map.1 listed
  have placed := Option.mem_toList.1 hx
  obtain ⟨_, _, _, filled⟩ := key_of_namespacePlacement? placed
  obtain ⟨raw, there, placed⟩ := Option.bind_eq_some_iff.1 placed
  have visited : namespaceUnit e.name raw ∈ (populationOf ctx families).rawEntities :=
    PopulationRun.mem_rawEntities.2 ⟨find?_namespaceLabel, there⟩
  obtain ⟨s, held⟩ := exists_holds_populationOf there
  obtain ⟨found, named⟩ := holds_populationOf names held
  have name := named e.name (label?_of_rawEntityId?_namespace found)
  have refused := refusedNamespace?_of_belongsTo names visited filter name filled (.inl ⟨rfl, rfl⟩)
  have marked : (namespaceIdentity (populationOf ctx families) e.name raw).filtered =
      some (!allows e.name) := by
    have filter : (populationOf ctx families).filter = some allows := filter
    simp only [namespaceIdentity, filter, Option.map_some, refused]
    cases allows e.name <;> rfl
  have mark := PopulationRun.find?_placement? _ _ _ _ marked
    (fun s hs => avoidsReserved_of_declared find?_namespaceLabel (by decide) s hs _ (by decide))
    placed
  refine ⟨x.set, by rw [← made], ?_⟩
  rw [mark]
  cases allows e.name <;> rfl

theorem allowed_of_reported {allows : String → Bool} (filter : ctx.filter = some allows)
    {integration version : String} {e : Entity}
    (h : e ∈ ((populationOf ctx families).populate (.create integration version)).2.entities)
    {ns : String} (name : IsNamespaceName ns) (lives : LivesIn ctx.cluster ns e.type) :
    allows ns = true := by
  rcases PopulationRun.origin_of_mem_populate h with type | ⟨u, visited, x, hx, _, type⟩
  · rw [type] at lives
    exact absurd lives not_livesIn_clusterEntityType
  · rw [← type] at lives
    rcases type_of_placed names visited hx with
      ⟨wide, _, kind⟩ | ⟨other, named, filled, inside, own, lives'⟩
    · rw [kind] at lives
      exact absurd lives (not_livesIn_of_clusterWide wide)
    · have same := lives'.unique lives named name
      subst same
      have refused := refusedNamespace?_of_belongsTo names visited filter named filled own
      have placed := (PopulationRun.placesOn_contribution _ u hx).1
      have elsewhere : u.group ≠ namespaceLabel := ne_of_clusterWide inside rfl
      have passed := placed.resolve_left elsewhere
      rw [refused] at passed
      cases verdict : allows other with
      | true => rfl
      | false => simp [verdict] at passed

theorem entities_node (filter : Option (String → Bool)) (payload : Payload) :
    (((populationOf { ctx with filter } families).populate payload).2.entities.filter
        (·.type == ctx.cluster ++ ":" ++ nodeLabel)) =
      ((populationOf ctx families).populate payload).2.entities.filter
        (·.type == ctx.cluster ++ ":" ++ nodeLabel) := by
  have wide : isClusterWide nodeLabel = true := rfl
  have covers : (populationOf ctx families).Covers _ _ :=
    covers_clusterWide names wide fun _ => true
  have covers' : (populationOf { ctx with filter } families).Covers _ _ :=
    covers_clusterWide names wide fun _ => true
  have visited : (populationOf { ctx with filter } families).rawEntities =
      (populationOf ctx families).rawEntities := rfl
  have same (e : RawEntity) (he : e ∈ (populationOf { ctx with filter } families).rawEntities)
      (node : (e.group == nodeLabel && true) = true) :
      (populationOf { ctx with filter } families).contribution e =
        (populationOf ctx families).contribution e := by
    obtain ⟨declared, _⟩ := PopulationRun.mem_rawEntities.1 he
    have unplaced := (isObjectKind_of_declared declared).namespaceOf
    rw [if_pos (by simpa using node)] at unplaced
    exact PopulationRun.contribution_of_unplaced (populationOf ctx families) e unplaced filter
  have reported := PopulationRun.select_populate_eq (by rw [visited]) same covers' covers payload
  have listed := congrArg Payload.entities reported
  simpa only [Payload.entities_select, Bool.true_and] using listed

theorem isSome_find?_namespace (filter : Option (String → Bool)) (integration version ns : String) :
    (((populationOf { ctx with filter } families).populate (.create integration version)).2.find? ns
        (ctx.cluster ++ ":" ++ namespaceLabel)).isSome =
      (((populationOf ctx families).populate (.create integration version)).2.find? ns
        (ctx.cluster ++ ":" ++ namespaceLabel)).isSome := by
  have placed := isSome_namespacePlacement? ctx families ns filter
  have filtered := entities_namespace { ctx with filter } names integration version ns
  rw [Payload.isSome_find?, Payload.isSome_find?, filtered, entities_namespace ctx names]
  revert placed
  cases namespacePlacement? { ctx with filter } families ns <;>
    cases namespacePlacement? ctx families ns <;> simp

end

/-- With a filter nothing is reported that lives in a namespace which the filter refuses, namespaces
are reported as ever and tell what the filter says of them, and nodes are reported as ever. -/
theorem cycle_filter (ctx : CycleContext) (allows : String → Bool) (integration version : String)
    {families : List Family} (names : HasNamespaceNames families) :
    let filtered := dataSource.cycle { ctx with filter := some allows } families
      (.create integration version)
    let unfiltered := dataSource.cycle { ctx with filter := none } families
      (.create integration version)
    (∀ e ∈ filtered.payload.entities, ∀ ns, IsNamespaceName ns → LivesIn ctx.cluster ns e.type →
      allows ns = true) ∧
    (∀ ns, (filtered.payload.find? ns (ctx.cluster ++ ":" ++ namespaceLabel)).isSome =
      (unfiltered.payload.find? ns (ctx.cluster ++ ":" ++ namespaceLabel)).isSome) ∧
    (∀ e ∈ filtered.payload.entities, e.type = ctx.cluster ++ ":" ++ namespaceLabel →
      ∃ set, e.metricSets = [set] ∧ set.find? Draft.filteredAttribute =
        some (.text (if allows e.name then "false" else "true"))) ∧
    filtered.payload.entities.filter (·.type == ctx.cluster ++ ":" ++ nodeLabel) =
      unfiltered.payload.entities.filter (·.type == ctx.cluster ++ ":" ++ nodeLabel) := by
  intro filtered unfiltered
  refine ⟨fun e he ns name lives => allowed_of_reported names rfl he name lives, fun ns => ?_,
    fun e he type => verdict_of_reported names rfl he type, ?_⟩
  · exact (isSome_find?_namespace names (some allows) integration version ns).trans
      (isSome_find?_namespace names none integration version ns).symm
  · exact (entities_node names (some allows) (.create integration version)).trans
      (entities_node names none (.create integration version)).symm

theorem cycle_filter_refused_system :
    let families : List Family := [
      ⟨"kube_namespace_created", .gauge, [
        ⟨.singleton "namespace" "system", .gauge (.ofInt 1)⟩,
        ⟨.singleton "namespace" "web", .gauge (.ofInt 2)⟩]⟩,
      ⟨"kube_deployment_created", .gauge, [
        ⟨.ofList [("deployment", "dns"), ("namespace", "system")], .gauge (.ofInt 3)⟩,
        ⟨.ofList [("deployment", "shop"), ("namespace", "web")], .gauge (.ofInt 4)⟩]⟩]
    let filtered := dataSource.cycle ⟨"c", "1.30", some (· == "web"), Guesser.capitalized⟩ families
      (.create "ksm" "1")
    HasNamespaceNames families ∧
    (filtered.payload.find? "shop" "c:web:deployment").isSome ∧
    (∀ e ∈ filtered.payload.entities, ¬ LivesIn "c" "system" e.type) ∧
    ∀ e ∈ filtered.payload.entities, e.type = "c:namespace" → ∃ set, e.metricSets = [set] ∧
      set.find? "nrFiltered" = some (.text (if e.name == "web" then "false" else "true")) := by
  intro families filtered
  have names : HasNamespaceNames families := by decide
  obtain ⟨allowed, _, marked, _⟩ := cycle_filter
    ⟨"c", "1.30", some (· == "web"), Guesser.capitalized⟩ (· == "web") "ksm" "1" names
  refine ⟨names, by decide +kernel, fun e he lives => ?_, marked⟩
  exact absurd (allowed e he "system" (by decide) lives) (by decide)

end KubeEntities.StateMetrics
