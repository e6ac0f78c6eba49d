import KubeEntities.Proofs.Population.Kinds
import KubeEntities.Proofs.StateMetrics.Declarations

/-! Kinds do not matter. All strategies of the seven declarations are blind to the kinds of numbers
(`isKindBlind_of_declared`), so a cycle gives one payload and one report for families that differ in
nothing else (`cycle_kinds`). The source type of a quota's number does follow its kind, and it shows
when the number is refused, in the error and nowhere else. -/

namespace KubeEntities.StateMetrics
open Fetcher

@[simp] theorem isKindBlind_attr (name metric label : String) :
    Fetcher.IsKindBlind (attr name metric label).fetch :=
  isKindBlind_fromLabel metric label

@[simp] theorem isKindBlind_gauge (name metric : String) :
    Fetcher.IsKindBlind (gauge name metric).fetch :=
  isKindBlind_fromValue metric

@[simp] theorem isKindBlind_labels (kind metric : String) :
    Fetcher.IsKindBlind (labels kind metric).fetch :=
  isKindBlind_inheritAll kind metric

@[simp] theorem isKindBlind_orNothing {s : Spec} (h : Fetcher.IsKindBlind s.fetch) :
    Fetcher.IsKindBlind s.orNothing.fetch := h

theorem isKindBlind_isScheduled : Fetcher.IsKindBlind isScheduled := by
  intro group id groups
  rw [isScheduled, isKindBlind_labelOf, isScheduled]
  cases labelOf IdGenerator.schedulingMetric "condition" group id groups <;> rfl

theorem isKindBlind_specs {group : String} {g : SpecGroup} (h : specs.find? group = some g) :
    ∀ s ∈ g.specs, Fetcher.IsKindBlind s.fetch := by
  refine forall_declared (P := fun _ g => ∀ s ∈ g.specs, Fetcher.IsKindBlind s.fetch)
    ?namespaces ?nodes ?deployments ?pods ?containers ?services ?quotas h
  case namespaces => simp [namespaceGroup]
  case nodes => simp [nodeGroup]
  case deployments => simp [deploymentGroup]
  case pods => simp [podGroup, isKindBlind_isScheduled]
  case containers => simp [containerGroup, isKindBlind_fromValue, isKindBlind_inheritSome]
  case services => simp [serviceGroup]
  case quotas => simp [resourceQuotaGroup, isKindBlind_fromValuesKeyedByLabel]

theorem isKindBlind_id {group : String} {g : SpecGroup} (h : specs.find? group = some g) :
    ∀ generate ∈ g.id, IsKindBlind generate := by
  refine forall_declared (P := fun _ g => ∀ generate ∈ g.id, IsKindBlind generate)
    ?namespaces ?nodes ?deployments ?pods ?containers ?services ?quotas h
  case namespaces => simp [namespaceGroup]
  case nodes => simp [nodeGroup]
  case deployments => simp [deploymentGroup, IdGenerator.isKindBlind_fromLabel]
  case pods => simp [podGroup, IdGenerator.isKindBlind_pendingPod]
  case containers => simp [containerGroup, IdGenerator.isKindBlind_fromLabel]
  case services => simp [serviceGroup, IdGenerator.isKindBlind_fromLabel]
  case quotas => simp [resourceQuotaGroup]

theorem isKindBlind_of_declared {group : String} {g : SpecGroup}
    (h : specs.find? group = some g) : g.IsKindBlind where
  specs := isKindBlind_specs h
  id := isKindBlind_id h
  type := by
    obtain ⟨metric, type⟩ := (isObjectKind_of_declared h).type
    exact type ▸ TypeGenerator.isKindBlind_fromLabels metric
  namespaceOf := by
    rw [(isObjectKind_of_declared h).namespaceOf]
    split
    · exact fun _ declared => absurd declared (by simp)
    · rintro _ ⟨⟩
      exact NamespaceGetter.isKindBlind_fromLabel

/-- Of two cycles over the same families but for kinds, payload, counts and group errors are the
same, and so are the other errors but for the source type of a metric that was refused. -/
theorem cycle_kinds {a b : List Family} (h : List.Forall₂ Family.Rewrapped a b)
    (ctx : CycleContext) (payload : Payload) :
    (dataSource.cycle ctx a payload).payload = (dataSource.cycle ctx b payload).payload ∧
      (dataSource.cycle ctx a payload).report.Alike (dataSource.cycle ctx b payload).report :=
  DataSource.cycle_rewrapped ctx payload (fun _ _ => isKindBlind_of_declared) h

theorem cycle_kinds_quota :
    let labels := [("namespace", "web"), ("resourcequota", "quota")]
    let created : Family :=
      ⟨"kube_resourcequota_created", .gauge, [⟨.ofList labels, .gauge (.ofInt 1)⟩]⟩
    let quota (kind : Kind) : Family :=
      ⟨"kube_resourcequota", kind,
        [⟨.ofList (labels ++ [("resource", "cpu"), ("type", "hard")]), .ofKind kind .nan⟩]⟩
    let ctx : CycleContext := { cluster := "c", k8sVersion := "1.30" }
    let a := dataSource.cycle ctx [created, quota .counter] (.create "ksm" "1")
    let b := dataSource.cycle ctx [created, quota .gauge] (.create "ksm" "1")
    List.Forall₂ Family.Rewrapped [created, quota .counter] [created, quota .gauge] ∧
      a.report.populateErrors ≠ b.report.populateErrors ∧
      a.payload = b.payload ∧ a.report.Alike b.report := by
  intro labels created quota ctx a b
  have rewrapped : List.Forall₂ Family.Rewrapped [created, quota .counter] [created, quota .gauge] :=
    .cons ⟨rfl, .cons ⟨rfl, rfl⟩ .nil⟩ (.cons ⟨rfl, .cons ⟨rfl, rfl⟩ .nil⟩ .nil)
  exact ⟨rewrapped, by decide +kernel, cycle_kinds rewrapped ctx (.create "ksm" "1")⟩

end KubeEntities.StateMetrics
