import KubeEntities.Proofs.Population.Selection
import KubeEntities.Proofs.StateMetrics.Placements

/-! Isolation of namespaces. Leaving out every series that does not name a namespace changes nothing
of what a cycle reports for this namespace (`cycle_ofNamespace`): its raw entities keep all of
their series, and so do the parents that they inherit from. -/

namespace KubeEntities.StateMetrics

/-- The families with the series of one namespace only. -/
def ofNamespace (ns : String) (families : List Family) : List Family :=
  families.map (Family.keeping fun s => s.label? namespaceLabel == some ns)

variable {ctx : CycleContext} {families : List Family} {ns : String}

theorem hasNamespaceNames_ofNamespace (names : HasNamespaceNames families) (ns : String) :
    HasNamespaceNames (ofNamespace ns families) := by
  intro f hf s hs
  obtain ⟨whole, hw, rfl⟩ := List.mem_map.1 hf
  exact names whole hw s (List.mem_filter.1 hs).1

theorem covers_reportedFor (names : HasNamespaceNames families) (name : IsNamespaceName ns) :
    (populationOf ctx families).Covers (fun group id => BelongsTo ns group id)
      (fun name type => IsReportedFor ctx.cluster ns name type) where
  units := by
    intro e visited x hx reported
    rw [decide_eq_true_eq] at reported ⊢
    rcases type_of_placed names visited hx with
      ⟨wide, kept, type⟩ | ⟨other, named, _, _, own, lives⟩
    · rw [kept, type] at reported
      rcases reported with ⟨same, kind⟩ | lives
      · exact .inl ⟨(String.append_right_inj _).1 kind, same⟩
      · exact absurd lives (not_livesIn_of_clusterWide wide)
    · rcases reported with ⟨_, kind⟩ | lives'
      · rw [kind] at lives
        exact absurd lives (not_livesIn_of_clusterWide rfl)
      · exact lives'.unique lives name named ▸ own
  cluster := by
    intro name
    rw [decide_eq_false_iff_not]
    rintro (⟨_, kind⟩ | lives)
    · exact clusterEntityType_ne_of_clusterWide rfl kind
    · exact not_livesIn_clusterEntityType lives

section
variable (names : HasNamespaceNames families) (name : IsNamespaceName ns) (filled : ns ≠ "")
include names name filled

theorem filter_isOf_ofNamespace {group id : String} (own : BelongsTo ns group id) :
    (namedSeries (select queries families)).filter (·.isOf group id) =
      (namedSeries (select queries (ofNamespace ns families))).filter (·.isOf group id) := by
  rw [ofNamespace, namedSeries_select_keeping, List.filter_filter]
  refine List.filter_congr fun x hx => ?_
  cases mine : x.isOf group id with
  | false => rfl
  | true =>
    have found : rawEntityId? group x.series = some id := by simpa [NamedSeries.isOf] using mine
    have labelled := label?_of_belongsTo name filled (names_of_mem_select names hx) found own
    simp [labelled]

theorem entity?_ofNamespace {group id : String} (own : BelongsTo ns group id) :
    (populationOf ctx families).groups.entity? group id =
      (populationOf ctx (ofNamespace ns families)).groups.entity? group id := by
  rw [entity?_populationOf, entity?_populationOf, filter_isOf_ofNamespace names name filled own]

theorem belongsTo_of_parentId {group id parent parentId : String} (own : BelongsTo ns group id)
    (inherits : parent ≠ nodeLabel)
    (h : Fetcher.parentId parent group id (populationOf ctx families).groups = .ok parentId) :
    BelongsTo ns parent parentId ∨ specs.find? parent = none := by
  obtain ⟨raw, there, h⟩ := Except.bind_eq_ok h
  split at h
  · cases h
  · rename_i parentId' found
    cases h
    obtain ⟨s, inside, pointed⟩ := List.exists_of_findSome?_eq_some found
    have held := RawGroups.entity_eq_ok there
    have labelled := label?_of_holds names name filled own ⟨raw, held, inside⟩
    cases declared : specs.find? parent with
    | none => exact .inr rfl
    | some g =>
      have kind := (isObjectKind_of_declared declared).kind
      exact .inl (belongsTo_of_parentIdOf? filled inherits kind labelled pointed)

theorem sameView_ofNamespace {group id : String} (own : BelongsTo ns group id) :
    SameView (· ≠ nodeLabel) group id (populationOf ctx families).groups
      (populationOf ctx (ofNamespace ns families)).groups where
  own := entity?_ofNamespace names name filled own
  parent := by
    intro parent parentId inherits found
    rcases belongsTo_of_parentId names name filled own inherits found with owned | undeclared
    · exact entity?_ofNamespace names name filled owned
    · rw [entity?_populationOf, entity?_populationOf, undeclared]
      rfl

theorem contribution_ofNamespace {e : RawEntity}
    (visited : e ∈ (populationOf ctx families).rawEntities) (own : BelongsTo ns e.group e.id) :
    (populationOf ctx families).contribution e =
      (populationOf ctx (ofNamespace ns families)).contribution e := by
  obtain ⟨declared, _⟩ := PopulationRun.mem_rawEntities.1 visited
  have isLocal := (isObjectKind_of_declared declared).isLocal own.ne_node
  have swapped : populationOf ctx (ofNamespace ns families) =
      { populationOf ctx families with
        groups := (populationOf ctx (ofNamespace ns families)).groups } := rfl
  rw [swapped]
  exact PopulationRun.contribution_congr isLocal (sameView_ofNamespace names name filled own)

variable (ctx) in
theorem rawEntities_ofNamespace :
    (populationOf ctx families).rawEntities.filter (fun e => BelongsTo ns e.group e.id) =
      (populationOf ctx (ofNamespace ns families)).rawEntities.filter
        fun e => BelongsTo ns e.group e.id :=
  PopulationRun.filter_rawEntities_eq (populationOf ctx families)
    (populationOf ctx (ofNamespace ns families)) rfl (select queries families)
    (select queries (ofNamespace ns families)) rfl rfl (fun group id => BelongsTo ns group id)
    fun _ _ own => filter_isOf_ofNamespace names name filled (of_decide_eq_true own)

end

/-- Nothing that is reported for a namespace depends on series that do not name it. -/
theorem cycle_ofNamespace (ctx : CycleContext) (integration version : String)
    {families : List Family} (names : HasNamespaceNames families) {ns : String}
    (name : IsNamespaceName ns) (filled : ns ≠ "") :
    let whole := dataSource.cycle ctx families (.create integration version)
    let part := dataSource.cycle ctx (ofNamespace ns families) (.create integration version)
    (whole.payload.entities.filter fun e => IsReportedFor ctx.cluster ns e.name e.type) =
        part.payload.entities.filter (fun e => IsReportedFor ctx.cluster ns e.name e.type) ∧
      (whole.report.populateErrors.filter fun error => BelongsTo ns error.group error.id) =
        part.report.populateErrors.filter fun error => BelongsTo ns error.group error.id := by
  simp only [cycle_payload, cycle_populateErrors]
  have visited := rawEntities_ofNamespace ctx names name filled
  have same (e : RawEntity) (he : e ∈ (populationOf ctx families).rawEntities)
      (own : decide (BelongsTo ns e.group e.id) = true) :=
    contribution_ofNamespace names name filled he (of_decide_eq_true own)
  have apart (id : String) : decide (BelongsTo ns PopulationRun.clusterCategory id) = false := by
    rw [decide_eq_false_iff_not]
    rintro (⟨kind, _⟩ | ⟨kind, _⟩) <;> exact absurd kind (by decide)
  have reported := PopulationRun.select_populate_eq visited same (covers_reportedFor names name)
    (covers_reportedFor (hasNamespaceNames_ofNamespace names ns) name) (.create integration version)
  have failed := PopulationRun.errors_populate_eq (fun group id => BelongsTo ns group id) visited
    same apart (.create integration version)
  have listed := congrArg Payload.entities reported
  simp only [Payload.entities_select] at listed
  exact ⟨listed, failed⟩

theorem cycle_ofNamespace_web :
    let families : List Family := [
      ⟨"kube_namespace_created", .gauge, [
        ⟨.singleton "namespace" "system", .gauge (.ofInt 1)⟩,
        ⟨.singleton "namespace" "web", .gauge (.ofInt 2)⟩]⟩,
      ⟨"kube_deployment_created", .gauge, [
        ⟨.ofList [("deployment", "shop"), ("namespace", "system")], .gauge (.ofInt 3)⟩,
        ⟨.ofList [("deployment", "shop"), ("namespace", "web")], .gauge (.ofInt 4)⟩]⟩]
    let ctx : CycleContext := { cluster := "c", k8sVersion := "1.30" }
    let whole := dataSource.cycle ctx families (.create "ksm" "1")
    let part := dataSource.cycle ctx (ofNamespace "web" families) (.create "ksm" "1")
    HasNamespaceNames families ∧ IsNamespaceName "web" ∧ "web" ≠ "" ∧
      (whole.payload.find? "shop" "c:web:deployment").isSome ∧
      (whole.payload.entities.filter fun e => IsReportedFor "c" "web" e.name e.type) =
        part.payload.entities.filter (fun e => IsReportedFor "c" "web" e.name e.type) ∧
      (whole.report.populateErrors.filter fun error => BelongsTo "web" error.group error.id) =
        part.report.populateErrors.filter fun error => BelongsTo "web" error.group error.id := by
  intro families ctx whole part
  have names : HasNamespaceNames families := by decide
  have name : IsNamespaceName "web" := by decide
  exact ⟨names, name, by decide, by decide +kernel,
    cycle_ofNamespace ctx "ksm" "1" names name (by decide)⟩

end KubeEntities.StateMetrics
