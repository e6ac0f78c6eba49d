import KubeEntities.Proofs.Payload.Place
import KubeEntities.Proofs.Population.Located
import KubeEntities.Proofs.Population.RawEntities

/-! Parts of an outcome. When all entities of a certain kind come from certain raw entities, then
what a run makes of these entities, and what goes wrong with these raw entities, is settled by the
contributions of these raw entities (`select_populate_eq`, `errors_populate_eq`). -/

namespace KubeEntities

namespace Contribution

def errors (c : Contribution) : List PopulateError := c.incidents.filterMap Incident.error?

theorem mem_errors {c : Contribution} {error : PopulateError} :
    error ∈ c.errors ↔ .failed error ∈ c.incidents := by
  constructor
  · intro h
    obtain ⟨incident, inside, found⟩ := List.mem_filterMap.1 h
    cases incident with
    | filtered group id ns => cases found
    | failed error' =>
      cases found
      exact inside
  · exact fun inside => List.mem_filterMap.2 ⟨.failed error, inside, rfl⟩

theorem errors_append (a b : Contribution) : (a.append b).errors = a.errors ++ b.errors := by
  simp [errors, append]

theorem errors_join_map {α : Type} (l : List α) (f : α → Contribution) {g : α → List PopulateError}
    (each : ∀ a ∈ l, (f a).errors = g a) : (join (l.map f)).errors = l.flatMap g := by
  simp only [errors, join, List.flatMap_map, List.filterMap_flatMap]
  exact List.flatMap_congr each

end Contribution

namespace PopulationRun
variable {run run' : PopulationRun} {own keep : String → String → Bool}

theorem total_eq_append (run : PopulationRun) (integration version : String) :
    run.total integration version =
      (Contribution.join (run.rawEntities.map run.contribution)).append
        (run.lastContribution run.rawEntities integration version) :=
  run.contributionOf_eq_append run.rawEntities integration version

/-- The chosen entities come from the chosen raw entities, and the cluster's is not among them. -/
structure Covers (run : PopulationRun) (own keep : String → String → Bool) : Prop where
  units : ∀ e ∈ run.rawEntities, ∀ x ∈ (run.contribution e).placements,
    keep x.name x.type = true → own e.group e.id = true
  cluster : ∀ name, keep name clusterEntityType = false

theorem select_populate (covers : run.Covers own keep) (payload : Payload) :
    (run.populate payload).2.select keep =
      (((run.rawEntities.filter fun e => own e.group e.id).flatMap fun e =>
        (run.contribution e).placements).filter fun x => keep x.name x.type).foldl
          Payload.place (payload.select keep) := by
  let last := run.lastContribution run.rawEntities payload.name payload.version
  have unchosen : last.placements.filter (fun x => keep x.name x.type) = [] := by
    rw [List.filter_eq_nil_iff]
    intro x hx
    simp [run.type_of_mem_lastContribution hx, covers.cluster]
  have chosen := filter_flatMap_of_imp (q := fun (e : RawEntity) => own e.group e.id) covers.units
  rw [← chosen]
  simp only [populate, Payload.select_foldl_place, total_eq_append, Contribution.append,
    Contribution.join, List.filter_append, unchosen, last, List.append_nil, List.flatMap_map]

theorem origin_of_mem_populate {integration version : String} {entity : Entity}
    (h : entity ∈ (run.populate (.create integration version)).2.entities) :
    entity.type = clusterEntityType ∨ ∃ e ∈ run.rawEntities, ∃ x ∈ (run.contribution e).placements,
      x.name = entity.name ∧ x.type = entity.type := by
  rcases Payload.key_of_mem_foldl_place h with ⟨old, there, _⟩ | ⟨x, hx, name, type⟩
  · exact absurd there List.not_mem_nil
  · rw [total_eq_append] at hx
    rcases List.mem_append.1 hx with hx | hx
    · obtain ⟨c, hc, hx⟩ := List.mem_flatMap.1 hx
      obtain ⟨e, he, rfl⟩ := List.mem_map.1 hc
      exact .inr ⟨e, he, x, hx, name, type⟩
    · exact .inl (type.symm.trans (run.type_of_mem_lastContribution hx))

theorem errors_populate_eq_append (run : PopulationRun) (payload : Payload) :
    (run.populate payload).1.errors =
      run.rawEntities.flatMap (fun e => (run.contribution e).errors) ++
        (run.lastContribution run.rawEntities payload.name payload.version).errors := by
  have total := congrArg Contribution.errors (run.total_eq_append payload.name payload.version)
  rw [Contribution.errors_append, Contribution.errors_join_map _ _ fun _ _ => rfl] at total
  exact total

variable (own) in
theorem errors_populate (apart : ∀ id, own clusterCategory id = false) (payload : Payload) :
    (run.populate payload).1.errors.filter (fun error => own error.group error.id) =
      ((run.rawEntities.filter fun e => own e.group e.id).flatMap fun e =>
        (run.contribution e).errors).filter fun error => own error.group error.id := by
  let last := run.lastContribution run.rawEntities payload.name payload.version
  have unchosen : last.errors.filter (fun error => own error.group error.id) = [] := by
    rw [List.filter_eq_nil_iff]
    intro error he
    have located := run.errorsAt_lastContribution _ _ _ error (Contribution.mem_errors.1 he)
    simp [located.1, apart]
  have chosen := filter_flatMap_of_imp (l := run.rawEntities)
    (f := fun e => (run.contribution e).errors)
    (p := fun error => own error.group error.id) (q := fun e => own e.group e.id)
    fun e _ error he kept => by
      obtain ⟨group, id⟩ := run.errorsAt_contribution e error (Contribution.mem_errors.1 he)
      rwa [group, id] at kept
  rw [errors_populate_eq_append, List.filter_append, unchosen, List.append_nil, chosen]

theorem errors_populate_at {u : RawEntity} (visited : u ∈ run.rawEntities)
    (apart : u.group ≠ clusterCategory) (payload : Payload) :
    (run.populate payload).1.errors.filter
        (fun error => error.group == u.group && error.id == u.id) =
      (run.contribution u).errors := by
  have mine : ∀ error ∈ (run.contribution u).errors,
      (error.group == u.group && error.id == u.id) = true := by
    intro error he
    obtain ⟨group, id⟩ := run.errorsAt_contribution u error (Contribution.mem_errors.1 he)
    simp [group, id]
  have others : ∀ id, (clusterCategory == u.group && id == u.id) = false := by
    simp [Ne.symm apart]
  rw [errors_populate (fun group id => group == u.group && id == u.id) others,
    rawEntities_filter_of_mem visited, List.flatMap_singleton]
  exact List.filter_eq_self.2 mine

section
variable (visited : run.rawEntities.filter (fun e => own e.group e.id) =
    run'.rawEntities.filter fun e => own e.group e.id)
  (same : ∀ e ∈ run.rawEntities, own e.group e.id = true → run.contribution e = run'.contribution e)
include visited same

theorem flatMap_contribution_eq {β : Type} (part : Contribution → List β) :
    (run.rawEntities.filter fun e => own e.group e.id).flatMap
        (fun e => part (run.contribution e)) =
      (run'.rawEntities.filter fun e => own e.group e.id).flatMap
        fun e => part (run'.contribution e) := by
  rw [← visited]
  rw [List.flatMap_def, List.flatMap_def]
  refine congrArg List.flatten (List.map_congr_left fun e he => ?_)
  obtain ⟨he, chosen⟩ := List.mem_filter.1 he
  rw [same e he chosen]

theorem select_populate_eq (covers : run.Covers own keep) (covers' : run'.Covers own keep)
    (payload : Payload) :
    (run.populate payload).2.select keep = (run'.populate payload).2.select keep := by
  rw [select_populate covers, select_populate covers',
    flatMap_contribution_eq visited same Contribution.placements]

variable (own) in
theorem errors_populate_eq (apart : ∀ id, own clusterCategory id = false) (payload : Payload) :
    (run.populate payload).1.errors.filter (fun error => own error.group error.id) =
      (run'.populate payload).1.errors.filter fun error => own error.group error.id := by
  rw [errors_populate own apart, errors_populate own apart,
    flatMap_contribution_eq visited same Contribution.errors]

end

end PopulationRun
end KubeEntities
