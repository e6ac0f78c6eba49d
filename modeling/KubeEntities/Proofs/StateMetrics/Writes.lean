import KubeEntities.Proofs.Population.Attempts
import KubeEntities.Proofs.StateMetrics.Declarations

/-! The names that metrics are written under. What is fetched goes by the name of its declaration,
labels of other objects by names that are set apart by their start, or by declared ones. So no
metric goes by a name that is reserved for the identity of its object, except that a quota has
metrics under names which the scrape chooses (`avoidsReserved_of_declared`). -/

namespace KubeEntities

/-- What a metric set tells of its entity before any metric is written. -/
def reservedNames : List String :=
  [eventTypeKey, "displayName", "clusterName", Draft.filteredAttribute]

def Spec.AvoidsReserved (s : Spec) : Prop := ∀ name ∈ reservedNames, s.Avoids name

theorem Spec.avoids_of_keys {s : Spec} {key : String} (own : s.name ≠ key)
    (keys : ∀ group id groups found, s.fetch group id groups = .ok (some found) →
      key ∉ found.keys) : s.Avoids key := by
  rintro group id groups found fetched w hw rfl
  rcases name_of_mem_writes hw with itself | listed
  · exact own itself.symm
  · exact keys group id groups found fetched listed

def Fetcher.IsScalar (fetch : Fetcher) : Prop :=
  ∀ group id groups found, fetch group id groups = .ok (some found) → found.keys = []

theorem Spec.avoids_of_scalar {s : Spec} {key : String} (scalar : s.fetch.IsScalar)
    (own : s.name ≠ key) : s.Avoids key := by
  refine avoids_of_keys own fun group id groups found fetched => ?_
  rw [scalar group id groups found fetched]
  exact List.not_mem_nil

namespace Fetcher

@[simp] theorem isScalar_fromLabel (metric label : String) : (fromLabel metric label).IsScalar := by
  intro group id groups found fetched
  obtain ⟨text, _, fetched⟩ := Except.bind_eq_ok fetched
  cases fetched
  rfl

@[simp] theorem isScalar_fromValue (metric : String) : (fromValue metric).IsScalar := by
  intro group id groups found fetched
  obtain ⟨raw, _, fetched⟩ := Except.bind_eq_ok fetched
  cases raw with
  | slice series => cases fetched
  | single s =>
    simp only [pure, Except.pure, Except.ok.injEq] at fetched
    split at fetched
    · cases fetched
    · cases fetched
      rfl

end Fetcher

namespace StateMetrics
open Fetcher

theorem isScalar_isScheduled : isScheduled.IsScalar := by
  intro group id groups found fetched
  obtain ⟨condition, _, fetched⟩ := Except.bind_eq_ok fetched
  cases fetched
  rfl

section
variable {name key : String} (own : name ≠ key)
include own

theorem avoids_attr (metric label : String) : (attr name metric label).Avoids key :=
  Spec.avoids_of_scalar (isScalar_fromLabel metric label) own

theorem avoids_fromValue (metric : String) (type : SourceType) (isOptional : Bool) :
    Spec.Avoids key ⟨name, fromValue metric, type, isOptional⟩ :=
  Spec.avoids_of_scalar (isScalar_fromValue metric) own

theorem avoids_isScheduled (type : SourceType) (isOptional : Bool) :
    Spec.Avoids key ⟨name, isScheduled, type, isOptional⟩ :=
  Spec.avoids_of_scalar isScalar_isScheduled own

theorem avoids_inheritSome (parent metric : String) {as : String} (label : String)
    (other : as ≠ key) (type : SourceType) (isOptional : Bool) :
    Spec.Avoids key
      ⟨name, inheritSome parent metric (.singleton as label), type, isOptional⟩ := by
  refine Spec.avoids_of_keys own fun group id groups found fetched => ?_
  obtain ⟨s, _, fetched⟩ := Except.bind_eq_ok fetched
  obtain ⟨entries, read, fetched⟩ := Except.bind_eq_ok fetched
  cases fetched
  simp only [SortedMap.singleton, List.mapM_cons, List.mapM_nil] at read
  obtain ⟨entry, chosen, read⟩ := Except.bind_eq_ok read
  cases read
  split at chosen
  · cases chosen
  · cases chosen
    exact fun listed => other (List.mem_singleton.1 listed).symm

end

theorem exists_label_of_inherited {carried : Labels} {entry : String × Fetched}
    (h : entry ∈ (inheritedLabels carried).entries) :
    ∃ label text, entry = (inheritedName label, .text text) := by
  have stored := SortedMap.find?_eq_some_iff.2 h
  obtain ⟨⟨label, text⟩, _, same⟩ := List.mem_map.1 (SortedMap.mem_of_find?_ofList stored)
  exact ⟨label, text, same.symm⟩

theorem ne_inheritedName {key : String} (start : key.toList.head? ≠ some 'l') (label : String) :
    inheritedName label ≠ key := by
  rintro rfl
  exact start (by simp [inheritedName])

theorem avoids_labels {key : String} (own : "labels" ≠ key)
    (others : ∀ label, inheritedName label ≠ key) (kind metric : String) :
    (labels kind metric).Avoids key := by
  refine Spec.avoids_of_keys own fun group id groups found fetched => ?_
  obtain ⟨s, _, fetched⟩ := Except.bind_eq_ok fetched
  cases fetched
  intro listed
  obtain ⟨entry, inside, rfl⟩ := List.mem_map.1 listed
  obtain ⟨label, text, rfl⟩ := exists_label_of_inherited inside
  exact others label rfl

section
variable {name : String} (own : name ∉ reservedNames)
include own

@[simp] theorem avoidsReserved_attr (metric label : String) :
    (attr name metric label).AvoidsReserved :=
  fun _ reserved => avoids_attr (ne_of_mem_of_not_mem reserved own).symm metric label

theorem avoidsReserved_fromValue (metric : String) (type : SourceType) (isOptional : Bool) :
    Spec.AvoidsReserved ⟨name, fromValue metric, type, isOptional⟩ :=
  fun _ reserved =>
    avoids_fromValue (ne_of_mem_of_not_mem reserved own).symm metric type isOptional

@[simp] theorem avoidsReserved_gauge (metric : String) : (gauge name metric).AvoidsReserved :=
  avoidsReserved_fromValue own metric .gauge false

theorem avoidsReserved_isScheduled (type : SourceType) (isOptional : Bool) :
    Spec.AvoidsReserved ⟨name, isScheduled, type, isOptional⟩ :=
  fun _ reserved => avoids_isScheduled (ne_of_mem_of_not_mem reserved own).symm type isOptional

theorem avoidsReserved_inheritSome (parent metric : String) (as label : String)
    (declared : as ∉ reservedNames) (type : SourceType) (isOptional : Bool) :
    Spec.AvoidsReserved
      ⟨name, inheritSome parent metric (.singleton as label), type, isOptional⟩ :=
  fun _ reserved => avoids_inheritSome (ne_of_mem_of_not_mem reserved own).symm parent metric label
    (ne_of_mem_of_not_mem reserved declared).symm type isOptional

end

@[simp] theorem avoidsReserved_labels (kind metric : String) :
    (labels kind metric).AvoidsReserved := by
  have starts : ∀ name ∈ reservedNames, name.toList.head? ≠ some 'l' := by decide
  intro key reserved
  have own : "labels" ≠ key := fun same => starts key reserved (same ▸ rfl)
  exact avoids_labels own (ne_inheritedName (starts key reserved)) kind metric

theorem avoids_orNothing {s : Spec} {key : String} : s.orNothing.Avoids key ↔ s.Avoids key := by
  have writes (found : Fetched) : s.orNothing.writes found = s.writes found := by
    cases found <;> rfl
  simp only [Spec.Avoids, writes]
  rfl

@[simp] theorem avoidsReserved_orNothing {s : Spec} :
    s.orNothing.AvoidsReserved ↔ s.AvoidsReserved := by
  simp only [Spec.AvoidsReserved, avoids_orNothing]

theorem avoidsReserved_of_declared {group : String} {g : SpecGroup}
    (h : specs.find? group = some g) (other : group ≠ "resourcequota") :
    ∀ s ∈ g.specs, s.AvoidsReserved := by
  revert other
  refine forall_declared (P := fun group g => group ≠ "resourcequota" →
    ∀ s ∈ g.specs, s.AvoidsReserved)
    ?namespaces ?nodes ?deployments ?pods ?containers ?services ?quotas h
  case namespaces => exact fun _ => by simp (disch := decide) [namespaceGroup]
  case nodes => exact fun _ => by simp (disch := decide) [nodeGroup]
  case deployments => exact fun _ => by simp (disch := decide) [deploymentGroup]
  case pods => exact fun _ => by simp (disch := decide) [podGroup, avoidsReserved_isScheduled]
  case containers =>
    intro _
    simp (disch := decide) [containerGroup, avoidsReserved_fromValue, avoidsReserved_inheritSome]
  case services => exact fun _ => by simp (disch := decide) [serviceGroup]
  case quotas => exact fun other => absurd rfl other

end StateMetrics
end KubeEntities
