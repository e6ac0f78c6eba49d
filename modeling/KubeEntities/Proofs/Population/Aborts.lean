import KubeEntities.Proofs.Population.Accounting

/-! Failures of whole entities. An entity that cannot be named, typed or split is given up once and
for all. Its event type and its place in the payload are asked for anew with every metric set, so an
entity in several parts that has no event type or no name is reported once for each part, and no
entity is reported more than once for any other reason (`populate_wholeErrors`). -/

namespace KubeEntities

namespace Contribution

/-- The errors that concern the entity as a whole. -/
def wholeErrors (c : Contribution) : List PopulateError := c.errors.filter (·.metric.isNone)

end Contribution

def Fate.aborts : Fate → Nat
  | refused _ | emitted _ _ => 0
  | aborted _ again => again + 1

theorem Fate.wholeErrors_contribution (fate : Fate) (cluster group id : String) :
    ∃ cause, (fate.contribution cluster group id).wholeErrors =
      .replicate fate.aborts ⟨group, id, none, cause⟩ := by
  cases fate with
  | refused ns => exact ⟨.sink .emptyEntityName, rfl⟩
  | aborted cause again =>
    refine ⟨cause, ?_⟩
    simp [contribution, Contribution.wholeErrors, Contribution.errors, List.filterMap_replicate,
      Incident.error?, aborts]
  | emitted identity emissions =>
    refine ⟨.sink .emptyEntityName, ?_⟩
    rw [Contribution.wholeErrors, errors_contribution_emitted, aborts, List.replicate_zero,
      List.filter_eq_nil_iff]
    intro error he
    obtain ⟨x, _, he⟩ := List.mem_flatMap.1 he
    simp [Option.isSome_iff_ne_none.1 (x.isSome_metric_of_mem_errors he)]

namespace PopulationRun
variable {run : PopulationRun} {e : RawEntity}

/-- It has an identity and several parts, and none of the parts can become a metric set: no event
type can be guessed for the group, or the raw ID, which names all of them, is empty. -/
structure FailsInParts (run : PopulationRun) (e : RawEntity) : Prop where
  admitted : e.group = namespaceLabel ∨ run.refusedNamespace? e = none
  resolved : ∃ identity, run.identity e = .ok identity
  parts : 1 < e.setCount
  failing : (∃ cause, (e.spec.guesser.getD run.guesser) e.group = .error cause) ∨ e.id = ""

theorem fate_eq_admittedFate (h : e.group = namespaceLabel ∨ run.refusedNamespace? e = none) :
    run.fate e = run.admittedFate e := by
  unfold fate
  cases refused : run.refusedNamespace? e with
  | none => rfl
  | some ns =>
    have named : e.group = namespaceLabel := h.resolve_right (by simp [refused])
    simp [named]

theorem admitted_of_fate {cause : Cause} {again : Nat} (h : run.fate e = .aborted cause again) :
    e.group = namespaceLabel ∨ run.refusedNamespace? e = none := by
  unfold fate at h
  split at h
  · split at h
    · rename_i named
      exact .inl named
    · cases h
  · rename_i allowed
    exact .inr allowed

theorem exists_split (parts : 1 < e.setCount) : ∃ split, e.spec.split = some split := by
  unfold RawEntity.setCount at parts
  split at parts
  · omega
  · rename_i split declared
    exact ⟨split, declared⟩

theorem name_of_parts (parts : 1 < e.setCount) {identity : Identity}
    (h : run.identity e = .ok identity) : identity.name = e.id := by
  obtain ⟨split, declared⟩ := exists_split parts
  have named := (run.identity_eq_ok e h).1
  rw [entityName, declared] at named
  exact (Except.ok.inj named).symm

theorem exists_snapshots (run : PopulationRun) (parts : 1 < e.setCount) :
    ∃ snapshots, run.snapshots e = .ok snapshots := by
  obtain ⟨split, declared⟩ := exists_split parts
  unfold RawEntity.setCount at parts
  rw [declared] at parts
  dsimp only at parts
  -- a metric that is missing or no slice has no series to be divided
  have sliced : ∃ series, e.raw.find? (split.sliceMetric e.group) = some (.slice series) := by
    cases found : e.raw.find? (split.sliceMetric e.group) with
    | none => simp [RawMetrics.slice, found, labelValues] at parts
    | some stored =>
      cases stored with
      | single s => simp [RawMetrics.slice, found, RawValue.slice?, labelValues] at parts
      | slice series => exact ⟨series, rfl⟩
  obtain ⟨series, found⟩ := sliced
  simp only [PopulationRun.snapshots, declared, RawMetrics.split, found]
  exact ⟨_, rfl⟩

theorem eventType_eq_error_iff {identity : Identity} :
    (∃ cause, run.eventType e identity = .error cause) ↔
      (∃ cause, (e.spec.guesser.getD run.guesser) e.group = .error cause) ∨ identity.name = "" := by
  unfold PopulationRun.eventType
  cases (e.spec.guesser.getD run.guesser) e.group with
  | error cause => simp
  | ok eventType =>
    cases blank : identity.name.isEmpty with
    | true => simpa using blank
    | false => simpa using blank

theorem failsInParts_of_fate {cause : Cause} {again : Nat}
    (h : run.fate e = .aborted cause again) (repeated : 0 < again) :
    run.FailsInParts e ∧ again + 1 = e.setCount := by
  have admitted := admitted_of_fate h
  rw [fate_eq_admittedFate admitted] at h
  unfold admittedFate at h
  split at h
  · cases h
    exact absurd repeated (Nat.lt_irrefl 0)
  · rename_i identity resolved
    split at h
    · cases h
      exact absurd repeated (Nat.lt_irrefl 0)
    · rename_i snapshots cut
      split at h
      · cases h
      · cases h
      · rename_i cause' first more failed
        cases h
        have counted : more.length + 1 = e.setCount := length_snapshots cut
        have parts : 1 < e.setCount := by omega
        have failing := eventType_eq_error_iff.1 ⟨_, failed⟩
        rw [name_of_parts parts resolved] at failing
        exact ⟨⟨admitted, ⟨identity, resolved⟩, parts, failing⟩, counted⟩

theorem FailsInParts.fate (h : run.FailsInParts e) :
    ∃ cause, run.fate e = .aborted cause (e.setCount - 1) := by
  obtain ⟨identity, resolved⟩ := h.resolved
  obtain ⟨snapshots, cut⟩ := exists_snapshots run h.parts
  have counted := length_snapshots cut
  have failing := h.failing
  rw [← name_of_parts h.parts resolved] at failing
  obtain ⟨cause, failed⟩ := eventType_eq_error_iff.2 failing
  cases snapshots with
  | nil =>
    have parts := h.parts
    rw [← counted] at parts
    exact absurd parts (by simp)
  | cons first more =>
    refine ⟨cause, ?_⟩
    rw [fate_eq_admittedFate h.admitted, admittedFate, resolved]
    simp only [cut, failed]
    rw [← counted, List.length_cons, Nat.add_sub_cancel]

theorem aborts_of_failsInParts (h : run.FailsInParts e) : (run.fate e).aborts = e.setCount := by
  obtain ⟨cause, fate⟩ := h.fate
  have parts := h.parts
  rw [fate, Fate.aborts]
  omega

theorem one_lt_aborts_iff : 1 < (run.fate e).aborts ↔ run.FailsInParts e := by
  constructor
  · intro repeated
    cases fate : run.fate e with
    | refused ns => simp [fate, Fate.aborts] at repeated
    | emitted identity emissions => simp [fate, Fate.aborts] at repeated
    | aborted cause again =>
      rw [fate, Fate.aborts] at repeated
      exact (failsInParts_of_fate fate (by omega)).1
  · intro h
    rw [aborts_of_failsInParts h]
    exact h.parts

/-- The errors of a run are those of its raw entities, each at its own group and raw ID, and at
last the cluster's. An entity is reported to have failed as a whole more than once if and only if it
fails in parts; then it is reported once for each part, and always for the same cause. -/
theorem populate_wholeErrors (run : PopulationRun) (payload : Payload) :
    (∃ last : List PopulateError, (∀ error ∈ last, error.IsAt clusterCategory run.cluster) ∧
      (run.populate payload).1.errors =
        run.rawEntities.flatMap (fun e => (run.contribution e).errors) ++ last) ∧
    ∀ e ∈ run.rawEntities,
      (∀ error ∈ (run.contribution e).errors, error.IsAt e.group e.id) ∧
      let whole := (run.contribution e).wholeErrors
      (∃ cause, ∀ error ∈ whole, error = ⟨e.group, e.id, none, cause⟩) ∧
      (1 < whole.length ↔ run.FailsInParts e) ∧
      (run.FailsInParts e → whole.length = e.setCount) := by
  refine ⟨⟨_, ?_, run.errors_populate_eq_append payload⟩, fun e _ => ⟨?_, ?_⟩⟩
  · exact fun error he => run.errorsAt_lastContribution _ _ _ error (Contribution.mem_errors.1 he)
  · exact fun error he => run.errorsAt_contribution e error (Contribution.mem_errors.1 he)
  · intro whole
    obtain ⟨cause, reported⟩ := (run.fate e).wholeErrors_contribution run.cluster e.group e.id
    rw [← contribution_eq] at reported
    change whole = _ at reported
    have counted : whole.length = (run.fate e).aborts := by rw [reported, List.length_replicate]
    refine ⟨⟨cause, fun error he => ?_⟩, ?_, ?_⟩
    · rw [reported] at he
      exact List.eq_of_mem_replicate he
    · rw [counted, one_lt_aborts_iff]
    · rw [counted]
      exact aborts_of_failsInParts

/-- A quota with two resources, of a kind for which no event type can be guessed. -/
theorem populate_wholeErrors_twice :
    let quota : SpecGroup := {
      specs := [⟨"resource", .fromLabel "kube_resourcequota" "resource", .attr, false⟩]
      type := .fromLabels "kube_resourcequota_created"
      guesser := some fun group => .error (.invalidGroupLabel group)
      split := some ⟨"resource", some "kube_resourcequota"⟩ }
    let specs : SpecTable := .singleton "resourcequota" quota
    let families : List Family := [
      ⟨"kube_resourcequota_created", .gauge, [
        ⟨.ofList [("namespace", "web"), ("resourcequota", "quota")],
          .gauge (.ofInt 1600000000)⟩]⟩,
      ⟨"kube_resourcequota", .gauge, [
        ⟨.ofList [("namespace", "web"), ("resourcequota", "quota"), ("resource", "cpu"),
          ("type", "hard")], .gauge (.ofInt 8)⟩,
        ⟨.ofList [("namespace", "web"), ("resourcequota", "quota"), ("resource", "pods"),
          ("type", "hard")], .gauge (.ofInt 10)⟩]⟩]
    let run : PopulationRun := {
      groups := (specs.group families).groups
      specs
      filter := none
      cluster := "c"
      k8sVersion := "1.30"
      guesser := Guesser.capitalized }
    ¬ ∀ e ∈ run.rawEntities,
      ((run.populate (.create "ksm" "1")).1.errors.filter fun error =>
        error.metric.isNone && error.group == e.group && error.id == e.id).length ≤ 1 := by
  decide +kernel

end PopulationRun
end KubeEntities
