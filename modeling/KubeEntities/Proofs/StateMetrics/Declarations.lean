import KubeEntities.Proofs.StateMetrics.Ownership
import KubeEntities.Proofs.Strategy.Locality

/-! What the declared kinds have in common. Each is typed by the labels of one metric, all but nodes
are subject to the namespace filter, and of those none inherits from a node. -/

namespace KubeEntities.StateMetrics
open Fetcher

section
variable {parents : String → Prop}

@[simp] theorem isLocal_attr (name metric label : String) :
    IsLocal parents (attr name metric label).fetch :=
  isLocal_fromLabel metric label

@[simp] theorem isLocal_gauge (name metric : String) : IsLocal parents (gauge name metric).fetch :=
  isLocal_fromValue metric

@[simp] theorem isLocal_labels {kind : String} (inherits : parents kind) (metric : String) :
    IsLocal parents (labels kind metric).fetch :=
  isLocal_inheritAll inherits metric

@[simp] theorem isLocal_orNothing {s : Spec} (h : IsLocal parents s.fetch) :
    IsLocal parents s.orNothing.fetch := h

theorem isLocal_isScheduled : IsLocal parents isScheduled := by
  intro group id a b view
  simp only [isScheduled, labelOf_congr view.own]

end

structure IsObjectKind (group : String) (g : SpecGroup) : Prop where
  kind : isClusterWide group = true ∨ group ∈ containerLabel :: namespacedKinds
  type : ∃ metric, g.type = .fromLabels metric
  unnamed : isClusterWide group = true → g.id = none
  namespaceOf : g.namespaceOf = if group = nodeLabel then none else some .fromLabel
  isLocal : group ≠ nodeLabel → g.IsLocal (· ≠ nodeLabel)

theorem isLocal_of_specs {g : SpecGroup} {metric : String} (type : g.type = .fromLabels metric)
    (namespaceOf : g.namespaceOf = some .fromLabel)
    (id : ∀ generate ∈ g.id, IsLocal (· ≠ nodeLabel) generate)
    (specs : ∀ s ∈ g.specs, IsLocal (· ≠ nodeLabel) s.fetch) : g.IsLocal (· ≠ nodeLabel) where
  specs := specs
  type := type ▸ TypeGenerator.isLocal_fromLabels metric
  id := id
  namespaceOf := by
    rw [namespaceOf]
    rintro _ ⟨⟩
    exact NamespaceGetter.isLocal_fromLabel

theorem isLocal_namespaceGroup : namespaceGroup.IsLocal (· ≠ nodeLabel) :=
  isLocal_of_specs rfl rfl (by simp [namespaceGroup]) (by simp [namespaceGroup, nodeLabel])

theorem isLocal_deploymentGroup : deploymentGroup.IsLocal (· ≠ nodeLabel) :=
  isLocal_of_specs rfl rfl (by simp [deploymentGroup, IdGenerator.isLocal_fromLabel])
    (by simp [deploymentGroup, nodeLabel])

theorem isLocal_podGroup : podGroup.IsLocal (· ≠ nodeLabel) :=
  isLocal_of_specs rfl rfl (by simp [podGroup, IdGenerator.isLocal_pendingPod])
    (by simp [podGroup, nodeLabel, isLocal_isScheduled])

theorem isLocal_containerGroup : containerGroup.IsLocal (· ≠ nodeLabel) :=
  isLocal_of_specs rfl rfl (by simp [containerGroup, IdGenerator.isLocal_fromLabel])
    (by simp [containerGroup, nodeLabel, isLocal_fromValue, isLocal_inheritSome])

theorem isLocal_serviceGroup : serviceGroup.IsLocal (· ≠ nodeLabel) :=
  isLocal_of_specs rfl rfl (by simp [serviceGroup, IdGenerator.isLocal_fromLabel])
    (by simp [serviceGroup, nodeLabel])

theorem isLocal_resourceQuotaGroup : resourceQuotaGroup.IsLocal (· ≠ nodeLabel) :=
  isLocal_of_specs rfl rfl (by simp [resourceQuotaGroup])
    (by simp [resourceQuotaGroup, isLocal_fromValuesKeyedByLabel])

theorem IsObjectKind.inNamespace {group metric : String} {g : SpecGroup}
    (kind : group ∈ containerLabel :: namespacedKinds) (type : g.type = .fromLabels metric)
    (namespaceOf : g.namespaceOf = some .fromLabel) (isLocal : g.IsLocal (· ≠ nodeLabel)) :
    IsObjectKind group g := by
  have elsewhere : group ≠ nodeLabel := ne_of_clusterWide kind rfl
  exact {
    kind := .inr kind
    type := ⟨metric, type⟩
    unnamed := fun wide => absurd rfl (ne_of_clusterWide kind wide)
    namespaceOf := by rw [if_neg elsewhere, namespaceOf]
    isLocal := fun _ => isLocal }

theorem forall_declared {P : String → SpecGroup → Prop}
    (namespaces : P namespaceLabel namespaceGroup)
    (nodes : P nodeLabel nodeGroup) (deployments : P "deployment" deploymentGroup)
    (pods : P podLabel podGroup) (containers : P containerLabel containerGroup)
    (services : P "service" serviceGroup) (quotas : P "resourcequota" resourceQuotaGroup)
    {group : String} {g : SpecGroup} (h : specs.find? group = some g) : P group g := by
  have listed := SortedMap.mem_of_find?_ofList h
  simp only [List.mem_cons, Prod.mk.injEq, List.not_mem_nil, or_false] at listed
  rcases listed with ⟨rfl, rfl⟩ | ⟨rfl, rfl⟩ | ⟨rfl, rfl⟩ | ⟨rfl, rfl⟩ | ⟨rfl, rfl⟩ | ⟨rfl, rfl⟩ |
    ⟨rfl, rfl⟩ <;> assumption

theorem isObjectKind_of_declared {group : String} {g : SpecGroup}
    (h : specs.find? group = some g) : IsObjectKind group g := by
  refine forall_declared ?namespaces ?nodes ?deployments ?pods ?containers ?services ?quotas h
  case namespaces => exact ⟨by decide, ⟨_, rfl⟩, fun _ => rfl, rfl, fun _ => isLocal_namespaceGroup⟩
  case nodes => exact ⟨by decide, ⟨_, rfl⟩, fun _ => rfl, rfl, fun node => absurd rfl node⟩
  case deployments => exact .inNamespace (by decide) rfl rfl isLocal_deploymentGroup
  case pods => exact .inNamespace (by decide) rfl rfl isLocal_podGroup
  case containers => exact .inNamespace (by decide) rfl rfl isLocal_containerGroup
  case services => exact .inNamespace (by decide) rfl rfl isLocal_serviceGroup
  case quotas => exact .inNamespace (by decide) rfl rfl isLocal_resourceQuotaGroup

theorem find?_namespaceLabel : specs.find? namespaceLabel = some namespaceGroup := by
  simp [specs, SortedMap.ofList, SortedMap.find?_insert, namespaceLabel]

theorem find?_podLabel : specs.find? podLabel = some podGroup := by
  simp [specs, SortedMap.ofList, SortedMap.find?_insert, podLabel]

theorem find?_containerLabel : specs.find? containerLabel = some containerGroup := by
  simp [specs, SortedMap.ofList, SortedMap.find?_insert, containerLabel]

end KubeEntities.StateMetrics
