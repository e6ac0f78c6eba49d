import KubeEntities.Proofs.Population.Aborts
import KubeEntities.Proofs.Population.Outcome
import KubeEntities.Proofs.Population.Values
import KubeEntities.Proofs.StateMetrics.Naming
import KubeEntities.Proofs.StateMetrics.Stored
import KubeEntities.Proofs.StateMetrics.Writes
import KubeEntities.Proofs.Strategy.Parents

/-! Pods. Of the conditions that a scrape has for a pod one is current, the last of value 1
(`currentScheduling?`), and it alone decides: a pod is reported while this condition is `false`, and
given up with one error otherwise (`cycle_pods`). -/

namespace KubeEntities.StateMetrics
open Fetcher
variable {ctx : CycleContext} {families : List Family}

/-- The scheduling condition of a pod that holds in a scrape, if any does. -/
def currentScheduling? (families : List Family) (pod : String) : Option Series :=
  ((seriesOf families podLabel pod IdGenerator.schedulingMetric).filter
    (·.value.text == "1")).getLast?

theorem seriesOf_scheduling (families : List Family) (pod : String) :
    (seriesOf (select queries families) podLabel pod IdGenerator.schedulingMetric).getLast? =
      currentScheduling? families pod := by
  have once : queries.filter (·.output == IdGenerator.schedulingMetric) =
      [current IdGenerator.schedulingMetric] := by decide +kernel
  have kept := seriesOf_select_kept (q := current IdGenerator.schedulingMetric) (by decide) rfl
    once families podLabel pod
  have one : (Value.gauge (.ofInt 1)).text = "1" := by decide +kernel
  have rule : (current IdGenerator.schedulingMetric).keeps = fun s => s.value.text == "1" := by
    funext s
    rw [← one]
    rfl
  rw [rule] at kept
  exact congrArg List.getLast? kept

section
variable {u : RawEntity} (visited : u ∈ (populationOf ctx families).rawEntities)
  (pod : u.group = podLabel)
include visited pod

theorem spec_of_pod : u.spec = podGroup := spec_of_visited visited pod find?_podLabel

theorem metric_of_pod :
    (populationOf ctx families).groups.metric u.group u.id IdGenerator.schedulingMetric =
      match currentScheduling? families u.id with
      | some s => .ok (.single s)
      | none => .error (.metricNotFound IdGenerator.schedulingMetric) := by
  have whole : u.spec.sliceMetric u.group ≠ some IdGenerator.schedulingMetric := by
    rw [spec_of_pod visited pod]
    simp [SpecGroup.sliceMetric, podGroup]
  have stored := metric_of_visited visited whole
  have kept : (seriesOf (select queries families) u.group u.id
      IdGenerator.schedulingMetric).getLast? = currentScheduling? families u.id :=
    pod.symm ▸ seriesOf_scheduling families u.id
  rw [kept] at stored
  exact stored

theorem entityName_of_pod :
    (populationOf ctx families).entityName u =
      match currentScheduling? families u.id with
      | none => .error (.metricNotFound IdGenerator.schedulingMetric)
      | some s =>
        match s.label? podLabel, s.label? "condition" with
        | none, _ => .error (.labelNotFound IdGenerator.schedulingMetric podLabel)
        | some _, none => .error (.labelNotFound IdGenerator.schedulingMetric "condition")
        | some pod, some condition =>
          if condition = "false" then .ok pod else .error (.podScheduled pod) := by
  have stored := metric_of_pod visited pod
  have named : (populationOf ctx families).entityName u =
      IdGenerator.pendingPod IdGenerator.schedulingMetric u.group u.id
        (populationOf ctx families).groups := by
    rw [PopulationRun.entityName, spec_of_pod visited pod]
    rfl
  rw [named]
  cases current : currentScheduling? families u.id with
  | none =>
    rw [current] at stored
    simp only [IdGenerator.pendingPod, stored]
    rfl
  | some s =>
    rw [current] at stored
    exact IdGenerator.pendingPod_of_single stored

theorem entityName_of_pod_eq_ok {name : String} :
    (populationOf ctx families).entityName u = .ok name ↔
      ∃ s, currentScheduling? families u.id = some s ∧ s.label? podLabel = some name ∧
        s.label? "condition" = some "false" := by
  rw [entityName_of_pod visited pod]
  cases currentScheduling? families u.id with
  | none => simp
  | some s =>
    dsimp only
    cases labelled : s.label? podLabel with
    | none => simp [labelled]
    | some p =>
      cases told : s.label? "condition" with
      | none => simp [told]
      | some condition =>
        by_cases pending : condition = "false" <;> simp [labelled, told, pending]

theorem entityName_of_pod_eq_error
    (scheduled : ∀ s ∈ currentScheduling? families u.id, s.label? "condition" ≠ some "false") :
    ∃ cause, (populationOf ctx families).entityName u = .error cause ∧
      ∀ s ∈ currentScheduling? families u.id, ∀ p ∈ s.label? podLabel,
        (s.label? "condition").isSome → cause = .podScheduled p := by
  rw [entityName_of_pod visited pod]
  cases current : currentScheduling? families u.id with
  | none => simp
  | some s =>
    dsimp only
    cases labelled : s.label? podLabel with
    | none => simp [labelled]
    | some p =>
      cases told : s.label? "condition" with
      | none => simp [told]
      | some condition =>
        have other : condition ≠ "false" := fun same => scheduled s current (same ▸ told)
        simp [labelled, told, other]

theorem find?_isScheduled {s : Series} (current : currentScheduling? families u.id = some s)
    (pending : s.label? "condition" = some "false") {x : Emission}
    (emitted : x ∈ ((populationOf ctx families).fate u).emissions) :
    ((populationOf ctx families).fate u).emissions = [x] ∧
      (x.draft ctx.cluster).set.find? "isScheduled" = some (.text "false") := by
  have spec := spec_of_pod visited pod
  have stored := metric_of_pod visited pod
  rw [current] at stored
  obtain ⟨one, unit, groups⟩ :=
    PopulationRun.emissions_of_unsplit emitted (by rw [spec]; rfl)
  have fetched : isScheduled u.group u.id x.groups = .ok (some (.flag false)) := by
    rw [← groups] at stored
    have read : labelOf IdGenerator.schedulingMetric "condition" u.group u.id x.groups =
        .ok "false" :=
      labelOf_of_all stored (by simp [RawValue.series]) (by simp [RawValue.series, pending])
    rw [isScheduled, read]
    rfl
  have draft : x.draft ctx.cluster =
      ((((podGroup.specs.take 6).foldl (Draft.fill x.groups u.group u.id)
        (x.opened ctx.cluster)).fill
          x.groups u.group u.id ⟨"isScheduled", isScheduled, .attr, false⟩).fill
            x.groups u.group u.id (labels "pod" "kube_pod_labels")) := by
    rw [Emission.draft, unit, spec]
    rfl
  have apart : (labels "pod" "kube_pod_labels").Avoids "isScheduled" :=
    avoids_labels (by decide) (ne_inheritedName (by decide)) _ _
  refine ⟨one, ?_⟩
  rw [draft, Draft.find?_fill _ apart, Draft.find?_fill_scalar fetched rfl (by decide)]
  rfl

end

theorem pending_of_mem_payload {integration version : String} {e : Entity}
    (he : e ∈ ((populationOf ctx families).populate (.create integration version)).2.entities)
    {ns : String} (type : e.type = ctx.cluster ++ ":" ++ ns ++ ":" ++ podLabel) :
    (∃ s, currentScheduling? families (ns ++ "_" ++ e.name) = some s ∧
      s.label? podLabel = some e.name ∧ s.label? namespaceLabel = some ns ∧
      s.label? "condition" = some "false") ∧
    ∃ set, e.metricSets = [set] ∧ set.find? "isScheduled" = some (.text "false") := by
  have ends : e.type = ctx.cluster ++ ":" ++ ns ++ (":" ++ podLabel) := by
    rw [type, String.append_assoc]
  obtain ⟨u, visited, pod, spec, named, ⟨x, emitted, name, typed⟩, sets⟩ :=
    exists_unit_of_type find?_podLabel (fun same => absurd same (by decide)) he ends
  have id : u.id = ns ++ "_" ++ e.name := by
    have made := named.identified
    rw [if_neg (by decide), if_neg (by decide)] at made
    obtain ⟨ns', made, typed'⟩ := made
    have same := type.symm.trans typed'
    simp only [String.append_right_inj, String.append_left_inj] at same
    rw [made, same]
  obtain ⟨entityName, entityType⟩ :=
    PopulationRun.identity_eq_ok _ u (PopulationRun.emits_of_mem emitted).resolved
  obtain ⟨s, current, labelledPod, pending⟩ := (entityName_of_pod_eq_ok visited pod).1 entityName
  have stored := metric_of_pod visited pod
  rw [current] at stored
  rw [spec] at entityType
  obtain ⟨ns', labelledNs, read⟩ :=
    TypeGenerator.fromLabels_of_single stored (by rw [pod]; decide) entityType
  have cluster : (populationOf ctx families).cluster = ctx.cluster := rfl
  rw [if_neg (by rw [pod]; decide), typed, type, pod, cluster] at read
  simp only [String.append_right_inj, String.append_left_inj] at read
  obtain ⟨one, held⟩ := find?_isScheduled visited pod current pending emitted
  rw [name] at labelledPod
  refine ⟨⟨s, id ▸ current, labelledPod, read ▸ labelledNs, pending⟩, _, ?_, held⟩
  rw [sets, one]
  rfl

theorem mem_families_of_current {id : String} {s : Series}
    (h : currentScheduling? families id = some s) :
    s.value.text = "1" ∧ ∃ f ∈ families, f.name = IdGenerator.schedulingMetric ∧ s ∈ f.series := by
  obtain ⟨listed, one⟩ := List.mem_filter.1 (List.mem_of_getLast? h)
  exact ⟨by simpa using one, (mem_seriesOf.1 listed).1⟩

theorem fate_of_scheduled {u : RawEntity} (visited : u ∈ (populationOf ctx families).rawEntities)
    (pod : u.group = podLabel)
    (scheduled : ∀ s ∈ currentScheduling? families u.id, s.label? "condition" ≠ some "false") :
    ((populationOf ctx families).PassesOver u.group u.id ∧
      ∃ ns, (populationOf ctx families).fate u = .refused ns) ∨
    (¬ (populationOf ctx families).PassesOver u.group u.id ∧
      ∃ cause, (populationOf ctx families).fate u = .aborted (.resolve cause) 0 ∧
        ∀ s ∈ currentScheduling? families u.id, ∀ p ∈ s.label? podLabel,
          (s.label? "condition").isSome → cause = .podScheduled p) := by
  have declared := (PopulationRun.mem_rawEntities.1 visited).1
  rw [PopulationRun.passesOver_iff declared]
  have kind : u.group ≠ namespaceLabel := by rw [pod]; decide
  obtain ⟨cause, failed, why⟩ := entityName_of_pod_eq_error visited pod scheduled
  cases refused : (populationOf ctx families).refusedNamespace? u with
  | some ns =>
    refine .inl ⟨⟨kind, ns, rfl⟩, ns, ?_⟩
    simp [PopulationRun.fate, refused, kind]
  | none =>
    refine .inr ⟨by simp, cause, ?_, why⟩
    have unnamed : (populationOf ctx families).identity u = .error cause := by
      rw [PopulationRun.identity, failed]
      rfl
    rw [PopulationRun.fate_eq_admittedFate (.inr refused), PopulationRun.admittedFate, unnamed]

/-- Every pod that is reported has a series of the scrape which says that it is not scheduled yet,
and says so itself. Of a raw ID whose current condition is another one, or that has none, no pod is
reported; unless the filter passes it over, it gets one error, which names the pod if that condition
does. -/
theorem cycle_pods (ctx : CycleContext) (integration version : String) (families : List Family) :
    let run := populationOf ctx families
    let cycle := dataSource.cycle ctx families (.create integration version)
    (∀ e ∈ cycle.payload.entities, ∀ ns, e.type = ctx.cluster ++ ":" ++ ns ++ ":" ++ podLabel →
      (∃ f ∈ families, f.name = IdGenerator.schedulingMetric ∧ ∃ s ∈ f.series,
        s.label? podLabel = some e.name ∧ s.label? namespaceLabel = some ns ∧
          s.label? "condition" = some "false" ∧ s.value.text = "1") ∧
      ∃ set, e.metricSets = [set] ∧ set.find? "isScheduled" = some (.text "false")) ∧
    ∀ u ∈ run.rawEntities, u.group = podLabel →
      (∀ s ∈ currentScheduling? families u.id, s.label? "condition" ≠ some "false") →
      let errors := cycle.report.populateErrors.filter fun error =>
        error.group == podLabel && error.id == u.id
      (∀ name type, ¬ run.ReportedAs u name type) ∧
      (∀ e ∈ cycle.payload.entities, ∀ ns, e.type = ctx.cluster ++ ":" ++ ns ++ ":" ++ podLabel →
        ns ++ "_" ++ e.name ≠ u.id) ∧
      (run.PassesOver podLabel u.id → errors = []) ∧
      (¬ run.PassesOver podLabel u.id →
        ∃ cause, errors = [⟨podLabel, u.id, none, .resolve cause⟩] ∧
          ∀ s ∈ currentScheduling? families u.id, ∀ p ∈ s.label? podLabel,
            (s.label? "condition").isSome → cause = .podScheduled p) := by
  intro run cycle
  have pending {e : Entity} (he : e ∈ cycle.payload.entities) {ns : String}
      (type : e.type = ctx.cluster ++ ":" ++ ns ++ ":" ++ podLabel) :=
    pending_of_mem_payload (cycle_payload ctx families _ ▸ he) type
  constructor
  · intro e he ns type
    obtain ⟨⟨s, current, labelledPod, labelledNs, told⟩, sets⟩ := pending he type
    obtain ⟨one, f, hf, named, hs⟩ := mem_families_of_current current
    exact ⟨⟨f, hf, named, s, hs, labelledPod, labelledNs, told, one⟩, sets⟩
  · intro u visited pod scheduled errors
    have apart : u.group ≠ PopulationRun.clusterCategory := by rw [pod]; decide
    have reported : errors = (run.contribution u).errors := by
      rw [← PopulationRun.errors_populate_at visited apart (.create integration version), pod,
        ← cycle_populateErrors]
    have fate := fate_of_scheduled visited pod scheduled
    rw [PopulationRun.contribution_eq] at reported
    refine ⟨?_, ?_, ?_, ?_⟩
    · intro name type emitted
      obtain ⟨x, hx, _⟩ := PopulationRun.reportedAs_iff.1 emitted
      rcases fate with ⟨_, ns, refused⟩ | ⟨_, cause, aborted, _⟩
      · rw [refused] at hx
        exact List.not_mem_nil hx
      · rw [aborted] at hx
        exact List.not_mem_nil hx
    · intro e he ns type same
      obtain ⟨⟨s, current, _, _, told⟩, _⟩ := pending he type
      exact scheduled s (same ▸ current) told
    · intro passed
      rcases fate with ⟨_, ns, refused⟩ | ⟨admitted, _⟩
      · rw [reported, refused]
        rfl
      · exact absurd (pod ▸ passed) admitted
    · intro admitted
      rcases fate with ⟨passed, _⟩ | ⟨_, cause, aborted, why⟩
      · exact absurd (pod ▸ passed) admitted
      · refine ⟨cause, ?_, why⟩
        rw [reported, aborted, ← pod]
        rfl

theorem cycle_pods_contradictory :
    let condition (pod condition : String) (value : Int) : Series :=
      ⟨.ofList [("namespace", "web"), ("pod", pod), ("condition", condition)],
        .gauge (.ofInt value)⟩
    let families : List Family := [
      ⟨"kube_pod_status_scheduled", .gauge, [
        condition "new" "false" 1, condition "new" "true" 0,
        condition "old" "false" 1, condition "old" "true" 1]⟩]
    let ctx : CycleContext := { cluster := "c", k8sVersion := "1.30" }
    let cycle := dataSource.cycle ctx families (.create "ksm" "1")
    (∃ e ∈ cycle.payload.entities, e.name = "new" ∧ e.type = "c:web:pod" ∧
      ∃ set, e.metricSets = [set] ∧ set.find? "isScheduled" = some (.text "false")) ∧
    (cycle.report.populateErrors.filter fun error =>
        error.group == podLabel && error.id == "web_old") =
      [⟨podLabel, "web_old", none, .resolve (.podScheduled "old")⟩] := by
  intro condition families ctx cycle
  obtain ⟨pending, scheduled⟩ := cycle_pods ctx "ksm" "1" families
  have reported : ∃ e ∈ cycle.payload.entities, e.name = "new" ∧ e.type = "c:web:pod" := by
    decide +kernel
  obtain ⟨e, he, name, type⟩ := reported
  have visited : ∃ u ∈ (populationOf ctx families).rawEntities,
      u.group = podLabel ∧ u.id = "web_old" := by
    decide +kernel
  obtain ⟨u, visited, pod, id⟩ := visited
  have current : currentScheduling? families u.id = some (condition "old" "true" 1) := by
    rw [id]
    decide +kernel
  have admitted : ¬ (populationOf ctx families).PassesOver podLabel u.id := by
    rintro (undeclared | ⟨_, _, _, _, _, _, unfiltered, _⟩)
    · exact absurd (undeclared.symm.trans find?_podLabel) (by simp)
    · exact absurd unfiltered (by simp [populationOf, CycleContext.populationRun, ctx])
  obtain ⟨_, _, _, given_up⟩ := scheduled u visited pod (by rw [current]; decide)
  obtain ⟨cause, errors, why⟩ := given_up admitted
  have named : cause = .podScheduled "old" := why _ current "old" (by decide) (by decide)
  rw [id, named] at errors
  exact ⟨⟨e, he, name, type, (pending e he "web" type).2⟩, errors⟩

end KubeEntities.StateMetrics
