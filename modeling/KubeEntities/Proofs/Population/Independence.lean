import KubeEntities.Proofs.Payload.Reorder
import KubeEntities.Proofs.Population.Located
import KubeEntities.Proofs.Population.Visit

/-! Independence of population. What a run adds to a payload does not depend on what the payload
holds (`populate_onto`), nor, up to order, on the order in which the raw entities are visited
(`sweep_perm`). Both are about visits that write into the shared payload. -/

namespace KubeEntities

namespace Contribution

theorem join_written_perm {l l' : List Contribution} (h : l.Perm l') :
    (join l).written = (join l').written :=
  h.foldr_eq' (fun a _ b _ n => by simp only [Nat.add_left_comm]) 0

theorem join_incidents_perm {l l' : List Contribution} (h : l.Perm l') :
    (join l).incidents.Perm (join l').incidents :=
  h.flatMap_right _

theorem join_placements_perm {l l' : List Contribution} (h : l.Perm l') :
    (join l).placements.Perm (join l').placements :=
  h.flatMap_right _

end Contribution

namespace PopulationRun
variable (run : PopulationRun)

theorem items_of_mem_join {units : List RawEntity} {x : Placement}
    (h : x ∈ (Contribution.join (units.map run.contribution)).placements) : x.items = [] := by
  obtain ⟨c, hc, hx⟩ := List.mem_flatMap.1 h
  obtain ⟨e, _, rfl⟩ := List.mem_map.1 hc
  obtain ⟨_, _, _, _, _, bare, _⟩ := run.placesOn_contribution e hx
  exact bare

/-- Populating writes into the payload in place, and still what it reports is what it reports of an
empty payload of the same name and version, and what it adds are the entities that it makes of
that one: their metric sets and inventory go to the entities of the same name and type that are
there, and the others come after these. -/
theorem populate_onto (p : Payload) :
    let alone := run.populate (.create p.name p.version)
    let onto := run.populate p
    onto = run.sweep run.rawEntities p ∧
    onto.1.populated = alone.1.populated ∧
    onto.1.metricsWritten = alone.1.metricsWritten ∧
    onto.1.errors = alone.1.errors ∧
    Payload.Keyed alone.2.entities ∧
    onto.2 = p.merge alone.2 ∧
    onto.1.entities = (alone.2.entities.filter fun e => p.lacks e.name e.type).length ∧
    onto.2.entities.length = p.entities.length + onto.1.entities := by
  intro alone onto
  have merged : onto.2 = p.merge alone.2 := Payload.foldl_place_eq_merge p _ p.name p.version
  have grown : onto.2.entities.length =
      p.entities.length + (alone.2.entities.filter fun e => p.lacks e.name e.type).length := by
    rw [merged]
    exact Payload.length_mergeEntities p.entities alone.2.entities
  have counted : onto.1.entities = onto.2.entities.length - p.entities.length := rfl
  have fresh : onto.1.entities =
      (alone.2.entities.filter fun e => p.lacks e.name e.type).length := by
    rw [counted, grown, Nat.add_sub_cancel_left]
  have blank : Payload.Keyed (Payload.create p.name p.version).entities := List.Pairwise.nil
  refine ⟨run.populate_eq_sweep p, rfl, rfl, rfl, blank.foldl_place _, merged, fresh, ?_⟩
  rw [fresh, grown]

structure SameOutcome (a b : Population × Payload) : Prop where
  populated : a.1.populated = b.1.populated
  metricsWritten : a.1.metricsWritten = b.1.metricsWritten
  entities : a.1.entities = b.1.entities
  errors : a.1.errors.Perm b.1.errors
  payload : a.2.SameUpToOrder b.2

theorem sameOutcome_append {a b : Contribution} (written : a.written = b.written)
    (incidents : a.incidents.Perm b.incidents) (placements : a.placements.Perm b.placements)
    (bare : ∀ x ∈ a.placements, x.items = []) (last : Contribution) (payload : Payload) :
    SameOutcome (outcome (a.append last) payload) (outcome (b.append last) payload) := by
  have total : (a.append last).written = (b.append last).written :=
    congrArg (· + last.written) written
  have placed := payload.sameUpToOrder_foldl_place placements bare last.placements
  exact {
    populated := congrArg (fun n => decide (0 < n)) total
    metricsWritten := total
    entities := congrArg (· - payload.entities.length) placed.entities.length
    errors := (incidents.append_right last.incidents).filterMap Incident.error?
    payload := placed }

/-- Raw entities may be visited in any order, the cluster last. -/
theorem sweep_perm (payload : Payload) {units : List RawEntity} (h : units.Perm run.rawEntities) :
    SameOutcome (run.sweep units payload) (run.populate payload) := by
  have perm := h.map run.contribution
  have written := Contribution.join_written_perm perm
  have last : run.lastContribution units payload.name payload.version =
      run.lastContribution run.rawEntities payload.name payload.version := by
    simp only [lastContribution, written]
  rw [populate_eq_sweep, sweep_eq, sweep_eq, contributionOf_eq_append, contributionOf_eq_append,
    last]
  exact sameOutcome_append written (Contribution.join_incidents_perm perm)
    (Contribution.join_placements_perm perm) (fun _ hx => run.items_of_mem_join hx) _ payload

theorem sweep_perm_two_nodes :
    let node : SpecGroup := { specs := [], type := .fromLabels "kube_node_info" }
    let run : PopulationRun := {
      groups := .singleton "node" (.ofList [("a", ∅), ("b", ∅)])
      specs := .singleton "node" node
      filter := none
      cluster := "c"
      k8sVersion := "1.30"
      guesser := Guesser.capitalized }
    run.rawEntities.length = 2 ∧ run.rawEntities.reverse.Perm run.rawEntities ∧
      SameOutcome (run.sweep run.rawEntities.reverse (.create "ksm" "1"))
        (run.populate (.create "ksm" "1")) := by
  intro node run
  have reversed := run.rawEntities.reverse_perm
  exact ⟨by decide, reversed, run.sweep_perm (.create "ksm" "1") reversed⟩

end PopulationRun
end KubeEntities
