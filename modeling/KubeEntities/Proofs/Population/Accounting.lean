import KubeEntities.Proofs.Population.Attempts
import KubeEntities.Proofs.Population.Selection

/-! Every metric of a run is accounted for. What the emissions of a run had accepted and refused is
summed up, contribution by contribution (`written_entityContributions`,
`metricErrors_entityContributions`), and the cluster adds two attributes that are never refused
(`populate_accounts`). -/

namespace KubeEntities

namespace Contribution

def metricErrors (c : Contribution) : List PopulateError := c.errors.filter (·.metric.isSome)

theorem metricErrors_append (a b : Contribution) :
    (a.append b).metricErrors = a.metricErrors ++ b.metricErrors := by
  simp [metricErrors, errors_append]

variable {α β : Type} (l : List α) (f : α → Contribution)

theorem metricErrors_join_map {g : α → List PopulateError}
    (each : ∀ a ∈ l, (f a).metricErrors = g a) : (join (l.map f)).metricErrors = l.flatMap g := by
  rw [metricErrors, errors_join_map l f fun _ _ => rfl, List.filter_flatMap]
  exact List.flatMap_congr each

theorem written_join_map {g : α → List β} {p : β → Bool}
    (each : ∀ a ∈ l, (f a).written = (g a).countP p) :
    (join (l.map f)).written = (l.flatMap g).countP p := by
  induction l with
  | nil => rfl
  | cons a l ih =>
    have rest := ih fun a ha => each a (List.mem_cons_of_mem _ ha)
    rw [List.flatMap_cons, List.countP_append, ← rest, ← each a List.mem_cons_self]
    rfl

end Contribution

theorem Emission.errors_contribution (x : Emission) (cluster : String) :
    (x.contribution cluster).errors = x.errors := by
  simp [contribution, Draft.contribution, Contribution.errors, x.errors_draft, List.filterMap_map,
    Function.comp_def, Incident.error?]

namespace Fate
variable (fate : Fate) (cluster group id : String)

theorem written_contribution :
    (fate.contribution cluster group id).written =
      (fate.emissions.flatMap Emission.attempts).countP Write.isAccepted := by
  cases fate with
  | refused ns => rfl
  | aborted cause again => rfl
  | emitted identity emissions =>
    exact Contribution.written_join_map emissions _ fun x _ => x.written_draft cluster

theorem errors_contribution_emitted (identity : Identity) (emissions : List Emission) :
    ((emitted identity emissions).contribution cluster group id).errors =
      emissions.flatMap Emission.errors :=
  Contribution.errors_join_map emissions _ fun x _ => x.errors_contribution cluster

theorem errors_contribution_of_mem {x : Emission} (h : x ∈ fate.emissions) :
    (fate.contribution cluster group id).errors = fate.emissions.flatMap Emission.errors := by
  cases fate with
  | refused ns => exact absurd h List.not_mem_nil
  | aborted cause again => exact absurd h List.not_mem_nil
  | emitted identity emissions => exact errors_contribution_emitted cluster group id _ _

theorem metricErrors_contribution :
    (fate.contribution cluster group id).metricErrors =
      fate.emissions.flatMap Emission.errors := by
  cases fate with
  | refused ns => rfl
  | aborted cause again =>
    simp [contribution, Contribution.metricErrors, Contribution.errors, Incident.error?, emissions,
      List.filterMap_replicate]
  | emitted identity emissions =>
    rw [Contribution.metricErrors, errors_contribution_emitted]
    refine List.filter_eq_self.2 fun error he => ?_
    obtain ⟨x, _, he⟩ := List.mem_flatMap.1 he
    exact x.isSome_metric_of_mem_errors he

end Fate

namespace PopulationRun
variable (run : PopulationRun)

def emissions : List Emission := run.rawEntities.flatMap fun e => (run.fate e).emissions

def attempts : List Write := run.emissions.flatMap Emission.attempts

def failures : List ResolveError := run.emissions.flatMap Emission.failures

theorem placements_entityContributions :
    run.entityContributions.placements = run.emissions.map (Emission.placement run.cluster) := by
  rw [entityContributions, emissions, List.map_flatMap]
  exact Contribution.placements_join_map _ _ fun e _ => by
    rw [contribution_eq, Fate.placements_contribution]

theorem written_entityContributions :
    run.entityContributions.written = run.attempts.countP Write.isAccepted := by
  rw [entityContributions, attempts, emissions, List.flatMap_assoc]
  exact Contribution.written_join_map _ _ fun e _ => by
    rw [contribution_eq, Fate.written_contribution]

theorem metricErrors_entityContributions :
    run.entityContributions.metricErrors = run.emissions.flatMap Emission.errors := by
  rw [entityContributions, emissions, List.flatMap_assoc]
  exact Contribution.metricErrors_join_map _ _ fun e _ => by
    rw [contribution_eq, Fate.metricErrors_contribution]

theorem mem_emissions {x : Emission} :
    x ∈ run.emissions ↔ ∃ e ∈ run.rawEntities, x ∈ (run.fate e).emissions :=
  List.mem_flatMap

theorem unit_of_mem_emissions {run : PopulationRun} {x : Emission} (h : x ∈ run.emissions) :
    x.unit ∈ run.rawEntities := by
  obtain ⟨e, visited, hx⟩ := run.mem_emissions.1 h
  exact ((emits_of_mem hx).own x hx).1 ▸ visited

theorem length_errors_emissions :
    (run.emissions.flatMap Emission.errors).length =
      run.attempts.countP (!·.isAccepted) + run.failures.length := by
  unfold attempts failures
  induction run.emissions with
  | nil => rfl
  | cons x emissions ih =>
    simp only [List.flatMap_cons, List.length_append, List.countP_append, ih, x.length_errors]
    omega

def clusterShare (accepted : Nat) (integration version : String) : Contribution :=
  if accepted = 0 then .nothing
  else if run.cluster.isEmpty then .failed clusterCategory run.cluster (.sink .emptyEntityName)
  else ⟨[], [run.clusterPlacement integration version], 2⟩

theorem total_eq (integration version : String) :
    run.total integration version = run.entityContributions.append
      (run.clusterShare (run.attempts.countP Write.isAccepted) integration version) := by
  rw [total_eq_append, lastContribution, clusterContribution_eq, clusterShare]
  change run.entityContributions.append (if 0 < run.entityContributions.written then _ else _) = _
  rw [written_entityContributions]
  by_cases idle : run.attempts.countP Write.isAccepted = 0
  · simp [idle]
  · simp [idle, Nat.pos_of_ne_zero idle]

section
variable (accepted : Nat) (integration version : String)

theorem metricErrors_clusterShare :
    (run.clusterShare accepted integration version).metricErrors = [] := by
  unfold clusterShare
  split
  · rfl
  · split <;> rfl

theorem written_clusterShare :
    (run.clusterShare accepted integration version).written =
      if accepted = 0 ∨ run.cluster = "" then 0 else 2 := by
  unfold clusterShare
  by_cases idle : accepted = 0
  · simp [idle, Contribution.nothing]
  · by_cases unnamed : run.cluster = "" <;> simp [idle, unnamed, Contribution.failed]

theorem placements_clusterShare :
    (run.clusterShare accepted integration version).placements =
      if accepted = 0 ∨ run.cluster = "" then []
      else [run.clusterPlacement integration version] := by
  unfold clusterShare
  by_cases idle : accepted = 0
  · simp [idle, Contribution.nothing]
  · by_cases unnamed : run.cluster = "" <;> simp [idle, unnamed, Contribution.failed]

end

theorem payload_populate (payload : Payload) :
    (run.populate payload).2 =
      (run.emissions.map (Emission.placement run.cluster) ++
        (run.clusterShare (run.attempts.countP Write.isAccepted) payload.name
          payload.version).placements).foldl Payload.place payload := by
  rw [populate, total_eq, ← placements_entityContributions]
  rfl

theorem populated_populate (payload : Payload) :
    (run.populate payload).1.populated = decide (0 < run.attempts.countP Write.isAccepted) := by
  have populated : (run.populate payload).1.populated =
      decide (0 < (run.total payload.name payload.version).written) := rfl
  rw [populated, total_eq, Contribution.append, written_entityContributions, written_clusterShare]
  congr 1
  split <;> simp only [eq_iff_iff] <;> omega

theorem error_of_mem_emissions {run : PopulationRun} {error : PopulateError}
    (h : error ∈ run.emissions.flatMap Emission.errors) :
    ∃ x ∈ run.emissions, x.unit ∈ run.rawEntities ∧ error.IsAt x.unit.group x.unit.id ∧
      ∃ s ∈ x.unit.spec.specs, error.metric = some s.name ∨
        ∃ found, s.fetch x.unit.group x.unit.id x.groups = .ok (some found) ∧
          ∃ key ∈ found.keys, error.metric = some key := by
  obtain ⟨x, hx, he⟩ := List.mem_flatMap.1 h
  obtain ⟨s, declared, ⟨w, hw, cause, _, rfl⟩ | ⟨cause, _, rfl⟩⟩ := x.mem_errors.1 he
  · refine ⟨x, hx, unit_of_mem_emissions hx, ⟨rfl, rfl⟩, s, declared, ?_⟩
    unfold Spec.attempts at hw
    split at hw
    · rename_i found fetched
      rcases Spec.name_of_mem_writes hw with own | listed
      · exact .inl (congrArg some own)
      · exact .inr ⟨found, fetched, w.name, listed, rfl⟩
    · exact absurd hw List.not_mem_nil
    · exact absurd hw List.not_mem_nil
  · exact ⟨x, hx, unit_of_mem_emissions hx, ⟨rfl, rfl⟩, s, declared, .inl rfl⟩

/-- A run is populated once a fetched metric was accepted, it counts the accepted ones and the two
attributes of the cluster, and every metric that was refused or could not be fetched is reported,
once, in order and at its raw entity. The metric sets that it adds are those of its emissions, and
marking a namespace never fails. -/
theorem populate_accounts (payload : Payload) :
    let outcome := run.populate payload
    let accepted := run.attempts.countP Write.isAccepted
    let refused := run.attempts.countP (!·.isAccepted)
    let reported := outcome.1.errors.filter (·.metric.isSome)
    (outcome.1.populated = true ↔ 0 < accepted) ∧
    outcome.1.metricsWritten =
      (if accepted = 0 ∨ run.cluster = "" then accepted else accepted + 2) ∧
    reported = run.emissions.flatMap Emission.errors ∧
    reported.length = refused + run.failures.length ∧
    (∀ error ∈ reported, ∃ x ∈ run.emissions, x.unit ∈ run.rawEntities ∧
      error.IsAt x.unit.group x.unit.id ∧ ∃ s ∈ x.unit.spec.specs, error.metric = some s.name ∨
        ∃ found, s.fetch x.unit.group x.unit.id x.groups = .ok (some found) ∧
          ∃ key ∈ found.keys, error.metric = some key) ∧
    outcome.2 = (run.emissions.map (Emission.placement run.cluster) ++
      if accepted = 0 ∨ run.cluster = "" then []
      else [run.clusterPlacement payload.name payload.version]).foldl Payload.place payload ∧
    ∀ (set : MetricSet) (verdict : Bool),
      ∃ marked, set.set Draft.filteredAttribute (.flag verdict) .attr = .ok marked := by
  intro outcome accepted refused reported
  have total := run.total_eq payload.name payload.version
  have written : outcome.1.metricsWritten =
      accepted + if accepted = 0 ∨ run.cluster = "" then 0 else 2 := by
    have summed := congrArg Contribution.written total
    simp only [Contribution.append, written_entityContributions, written_clusterShare] at summed
    exact summed
  have listed : reported = run.emissions.flatMap Emission.errors := by
    have joined := congrArg Contribution.metricErrors total
    rw [Contribution.metricErrors_append, metricErrors_clusterShare, List.append_nil,
      metricErrors_entityContributions] at joined
    exact joined
  refine ⟨?_, ?_, listed, ?_, ?_, ?_, ?_⟩
  · have populated : outcome.1.populated = decide (0 < outcome.1.metricsWritten) := rfl
    rw [populated, decide_eq_true_iff, written]
    split <;> omega
  · rw [written]
    split <;> rfl
  · rw [listed, length_errors_emissions]
  · rw [listed]
    exact fun error he => error_of_mem_emissions he
  · rw [← placements_clusterShare, ← payload_populate]
  · intro set verdict
    have stored : MetricSet.stored? .attr (.flag verdict) = some (.text (toString verdict)) := rfl
    have named : Draft.filteredAttribute.isEmpty = false := by decide
    exact ⟨_, by simp only [MetricSet.set, named, stored]; rfl⟩

end PopulationRun
end KubeEntities
