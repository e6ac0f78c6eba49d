import KubeEntities.Population
import KubeEntities.Proofs.Split

/-! What becomes of a raw entity. The namespace filter refuses it, or something aborts it as a
whole, or it emits metric sets: one, or one for each part of its split. Nothing else can happen, and
a contribution is that of the fate (`contribution_eq`); what is emitted has been named, typed and
cut into snapshots, and its metric sets have an event type (`emits_of_fate`). -/

namespace KubeEntities

/-- A metric set that is emitted: whose it is, and which snapshot its metrics are read from. -/
structure Emission where
  unit : RawEntity
  identity : Identity
  eventType : String
  groups : RawGroups

inductive Fate
  /-- the namespace that it was refused for -/
  | refused (ns : String)
  /-- reported once, and so many times again -/
  | aborted (cause : Cause) (again : Nat)
  | emitted (identity : Identity) (emissions : List Emission)

namespace Emission
variable (cluster : String) (x : Emission)

def opened : Draft :=
  let attributes := [("displayName", x.identity.name), ("clusterName", cluster)]
  let blank : Draft := ⟨.create x.eventType attributes, 0, []⟩
  x.identity.filtered.elim blank (blank.mark x.unit.group x.unit.id)

def draft : Draft :=
  x.unit.spec.specs.foldl (Draft.fill x.groups x.unit.group x.unit.id) (x.opened cluster)

def placement : Placement :=
  { name := x.identity.name, type := x.identity.type, set := (x.draft cluster).set }

def contribution : Contribution := (x.draft cluster).contribution x.identity.name x.identity.type

end Emission

def RawEntity.setCount (e : RawEntity) : Nat :=
  match e.spec.split with
  | none => 1
  | some split => (labelValues split.label (e.raw.slice (split.sliceMetric e.group))).length

namespace Fate

def contribution (cluster group id : String) : Fate → Contribution
  | refused ns => ⟨[.filtered group id ns], [], 0⟩
  | aborted cause again =>
    ⟨.replicate (again + 1) (.failed ⟨group, id, none, cause⟩), [], 0⟩
  | emitted _ emissions => .join (emissions.map (Emission.contribution cluster))

def emissions : Fate → List Emission
  | refused _ | aborted _ _ => []
  | emitted _ emissions => emissions

end Fate

theorem Contribution.placements_join_map {α : Type} (l : List α) (f : α → Contribution)
    {g : α → List Placement} (each : ∀ a ∈ l, (f a).placements = g a) :
    (join (l.map f)).placements = l.flatMap g := by
  simp only [join, List.flatMap_map]
  exact List.flatMap_congr each

theorem Fate.placements_contribution (fate : Fate) (cluster group id : String) :
    (fate.contribution cluster group id).placements =
      fate.emissions.map (Emission.placement cluster) := by
  cases fate with
  | refused ns => rfl
  | aborted cause again => rfl
  | emitted identity emissions =>
    rw [contribution, Contribution.placements_join_map emissions _ fun x _ => rfl]
    exact List.map_eq_flatMap.symm

theorem Contribution.join_singleton (c : Contribution) : join [c] = c := by
  simp [join]

theorem Contribution.join_replicate_failed (n : Nat) (group id : String) (cause : Cause) :
    join (.replicate n (failed group id cause)) =
      ⟨.replicate n (.failed ⟨group, id, none, cause⟩), [], 0⟩ := by
  induction n with
  | zero => rfl
  | succ n ih =>
    have first : join (.replicate (n + 1) (failed group id cause)) =
        (failed group id cause).append (join (.replicate n (failed group id cause))) := rfl
    rw [first, ih]
    rfl

namespace PopulationRun
variable (run : PopulationRun) (e : RawEntity)

/-- The snapshots that the metric sets are filled from, one for each set. -/
def snapshots : Except ResolveError (List RawGroups) :=
  match e.spec.split with
  | none => .ok [run.groups]
  | some split => (e.raw.split (split.sliceMetric e.group) split.label).map fun parts =>
      parts.values.map (.only e.group e.id)

def eventType (identity : Identity) : Except Cause String :=
  match (e.spec.guesser.getD run.guesser) e.group with
  | .error cause => .error (.resolve cause)
  | .ok eventType =>
    if identity.name.isEmpty then .error (.sink .emptyEntityName) else .ok eventType

/-- The fate of an entity that is not refused. A split without parts emits nothing, and nothing can
abort it then. -/
def admittedFate : Fate :=
  match run.identity e with
  | .error cause => .aborted (.resolve cause) 0
  | .ok identity =>
    match run.snapshots e with
    | .error cause => .aborted (.resolve cause) 0
    | .ok snapshots =>
      match run.eventType e identity, snapshots with
      | .ok eventType, _ =>
        .emitted identity (snapshots.map fun groups => ⟨e, identity, eventType, groups⟩)
      | .error _, [] => .emitted identity []
      | .error cause, _ :: more => .aborted cause more.length

def fate : Fate :=
  match run.refusedNamespace? e with
  | some ns => if e.group = namespaceLabel then run.admittedFate e else .refused ns
  | none => run.admittedFate e

theorem setContribution_eq (identity : Identity) (groups : RawGroups) :
    run.setContribution e identity groups =
      match run.eventType e identity with
      | .error cause => .failed e.group e.id cause
      | .ok eventType => Emission.contribution run.cluster ⟨e, identity, eventType, groups⟩ := by
  unfold setContribution eventType
  cases (e.spec.guesser.getD run.guesser) e.group with
  | error cause => rfl
  | ok eventType =>
    cases blank : identity.name.isEmpty with
    | true => simp
    | false => simp [Emission.contribution, Emission.draft, Emission.opened]

theorem admittedContribution_eq_join :
    run.admittedContribution e =
      match run.identity e with
      | .error cause => .failed e.group e.id (.resolve cause)
      | .ok identity =>
        match run.snapshots e with
        | .error cause => .failed e.group e.id (.resolve cause)
        | .ok snapshots => .join (snapshots.map (run.setContribution e identity)) := by
  unfold admittedContribution snapshots
  cases run.identity e with
  | error cause => rfl
  | ok identity =>
    cases e.spec.split with
    | none => simp [Contribution.join_singleton]
    | some split =>
      dsimp only
      cases e.raw.split (split.sliceMetric e.group) split.label with
      | error cause => rfl
      | ok parts => simp [Except.map, Function.comp_def]

theorem admittedContribution_eq :
    run.admittedContribution e = (run.admittedFate e).contribution run.cluster e.group e.id := by
  rw [admittedContribution_eq_join, admittedFate]
  cases run.identity e with
  | error cause => rfl
  | ok identity =>
    cases run.snapshots e with
    | error cause => rfl
    | ok snapshots =>
      have each : run.setContribution e identity = fun groups => _ :=
        funext (run.setContribution_eq e identity)
      dsimp only
      rw [each]
      cases run.eventType e identity with
      | ok eventType => simp [Fate.contribution, Function.comp_def]
      | error cause =>
        cases snapshots with
        | nil => rfl
        | cons first more =>
          have repeated := Contribution.join_replicate_failed (more.length + 1) e.group e.id cause
          simpa [Fate.contribution, List.replicate_succ] using repeated

theorem contribution_eq :
    run.contribution e = (run.fate e).contribution run.cluster e.group e.id := by
  unfold contribution fate
  cases run.refusedNamespace? e with
  | none => exact run.admittedContribution_eq e
  | some ns =>
    by_cases named : e.group = namespaceLabel
    · simp only [named, if_true]
      exact named ▸ run.admittedContribution_eq e
    · simp [named, Fate.contribution]

variable {run e}

theorem length_snapshots {snapshots : List RawGroups} (h : run.snapshots e = .ok snapshots) :
    snapshots.length = e.setCount := by
  unfold PopulationRun.snapshots at h
  unfold RawEntity.setCount
  cases declared : e.spec.split with
  | none =>
    rw [declared] at h
    cases h
    rfl
  | some split =>
    rw [declared] at h
    dsimp only at h ⊢
    cases cut : e.raw.split (split.sliceMetric e.group) split.label with
    | error cause => simp [cut, Except.map] at h
    | ok parts =>
      obtain ⟨_, rfl⟩ := RawMetrics.split_eq_ok cut
      rw [cut] at h
      cases h
      rw [← length_values_partitionByLabel]
      simp [SortedMap.values, SortedMap.map]

theorem guess_of_eventType {identity : Identity} {eventType : String}
    (h : run.eventType e identity = .ok eventType) :
    (e.spec.guesser.getD run.guesser) e.group = .ok eventType := by
  unfold PopulationRun.eventType at h
  split at h
  · cases h
  · rename_i guessed
    split at h
    · cases h
    · cases h
      exact guessed

theorem name_ne_of_eventType {identity : Identity} {eventType : String}
    (h : run.eventType e identity = .ok eventType) : identity.name ≠ "" := by
  unfold PopulationRun.eventType at h
  split at h
  · cases h
  · split at h
    · cases h
    · rename_i named
      simpa using named

theorem snapshots_of_split {split : Split} (declared : e.spec.split = some split)
    {snapshots : List RawGroups} (h : run.snapshots e = .ok snapshots) :
    let sliceMetric := split.sliceMetric e.group
    let slice := e.raw.slice sliceMetric
    snapshots = (partitionByLabel split.label slice).keys.map fun value =>
      .only e.group e.id (e.raw.insert sliceMetric (.slice (seriesWith split.label value slice))) := by
  intro sliceMetric slice
  unfold PopulationRun.snapshots at h
  rw [declared] at h
  dsimp only at h
  cases cut : e.raw.split sliceMetric split.label with
  | error cause => simp [sliceMetric, cut, Except.map] at h
  | ok parts =>
    obtain ⟨_, rfl⟩ := RawMetrics.split_eq_ok cut
    rw [cut] at h
    cases h
    dsimp only
    rw [SortedMap.values_map, values_partitionByLabel, List.map_map, List.map_map]
    rfl

structure Emits (run : PopulationRun) (e : RawEntity) (identity : Identity)
    (emissions : List Emission) : Prop where
  resolved : run.identity e = .ok identity
  cut : run.snapshots e = .ok (emissions.map (·.groups))
  own : ∀ x ∈ emissions,
    x.unit = e ∧ x.identity = identity ∧ run.eventType e identity = .ok x.eventType
  admitted : e.group = namespaceLabel ∨ run.refusedNamespace? e = none

theorem emits_of_fate {identity : Identity} {emissions : List Emission}
    (h : run.fate e = .emitted identity emissions) : Emits run e identity emissions := by
  have admitted (h : run.admittedFate e = .emitted identity emissions)
      (passed : e.group = namespaceLabel ∨ run.refusedNamespace? e = none) :
      Emits run e identity emissions := by
    unfold admittedFate at h
    split at h
    · cases h
    · rename_i identity' resolved
      split at h
      · cases h
      · rename_i snapshots cut
        split at h
        · rename_i eventType _ titled
          cases h
          refine ⟨resolved, ?_, ?_, passed⟩
          · simp [cut, Function.comp_def]
          · intro x hx
            obtain ⟨groups, _, rfl⟩ := List.mem_map.1 hx
            exact ⟨rfl, rfl, titled⟩
        · cases h
          exact ⟨resolved, cut, fun _ hx => absurd hx List.not_mem_nil, passed⟩
        · cases h
  unfold fate at h
  split at h
  · split at h
    · rename_i named
      exact admitted h (.inl named)
    · cases h
  · rename_i allowed
    exact admitted h (.inr allowed)

theorem emits_of_mem {x : Emission} (h : x ∈ (run.fate e).emissions) :
    Emits run e x.identity (run.fate e).emissions := by
  cases fate : run.fate e with
  | refused ns => simp [fate, Fate.emissions] at h
  | aborted cause again => simp [fate, Fate.emissions] at h
  | emitted identity emissions =>
    rw [fate] at h
    have emits := emits_of_fate fate
    exact (emits.own x h).2.1 ▸ emits

theorem Emits.length {identity : Identity} {emissions : List Emission}
    (h : Emits run e identity emissions) : emissions.length = e.setCount := by
  rw [← length_snapshots h.cut, List.length_map]

theorem emissions_of_unsplit {x : Emission} (h : x ∈ (run.fate e).emissions)
    (unsplit : e.spec.split = none) :
    (run.fate e).emissions = [x] ∧ x.unit = e ∧ x.groups = run.groups := by
  have emits := emits_of_mem h
  have cut := emits.cut
  simp only [PopulationRun.snapshots, unsplit, Except.ok.injEq] at cut
  obtain ⟨y, one, groups⟩ := List.map_eq_singleton_iff.1 cut.symm
  have same : x = y := List.mem_singleton.1 (one ▸ h)
  exact ⟨same ▸ one, (emits.own x h).1, same ▸ groups⟩

end PopulationRun
end KubeEntities
