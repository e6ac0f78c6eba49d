import KubeEntities.Proofs.Strategy.Parents

/-! The raw ID by which a parent is looked up, against the one by which grouping files it. Both are
made of the labels of one series, and they are the same text for every parent but a container: there
the pod is left out of the first (`parentId_of_lone`), so the look-up misses the entity. -/

namespace KubeEntities

theorem joined_ne_joined_with_part (ns part name : String) :
    ns ++ "_" ++ name ≠ ns ++ "_" ++ part ++ "_" ++ name := by
  intro same
  have lengths := congrArg String.length same
  simp only [String.length_append] at lengths
  have separator : "_".length = 1 := rfl
  omega

theorem rawEntityId?_of_container {s : Series} {ns pod name : String}
    (inside : s.label? namespaceLabel = some ns) (ofPod : s.label? podLabel = some pod)
    (named : s.label? containerLabel = some name) :
    rawEntityId? containerLabel s = some (ns ++ "_" ++ pod ++ "_" ++ name) :=
  rawEntityId?_container_eq_some_iff.2 ⟨ns, pod, name, inside, ofPod, named, rfl⟩

namespace Fetcher

section
variable {s : Series} {parent ns name : String}
  (inside : s.label? namespaceLabel = some ns) (filled : ns ≠ "")
  (named : s.label? parent = some name) (shown : name ≠ "")
include inside filled named shown

theorem parentIdOf?_eq :
    parentIdOf? parent s = some (if isClusterWide parent then name else ns ++ "_" ++ name) := by
  unfold parentIdOf?
  rw [nonEmptyLabel?_eq_some named shown, nonEmptyLabel?_eq_some inside filled]
  split <;> rfl

/-- Asked for its parent, an entity with a single series looks up the raw ID that this series is
grouped under, unless the parent is a container. -/
theorem parentId_of_lone {group id pod : String} {groups : RawGroups} {child : RawMetrics}
    (present : groups.entity? group id = some child) (lone : child.series = [s])
    (ofPod : s.label? podLabel = some pod) :
    ∃ rawId, rawEntityId? parent s = some rawId ∧
      (parent ≠ containerLabel → parentId parent group id groups = .ok rawId) ∧
      (parent = containerLabel → rawId = ns ++ "_" ++ pod ++ "_" ++ name ∧
        parentId parent group id groups = .ok (ns ++ "_" ++ name) ∧
        parentId parent group id groups ≠ .ok rawId) := by
  have points := parentIdOf?_eq inside filled named shown
  have asked := parentId_of_entity? present parent
  rw [lone, List.findSome?_singleton, points] at asked
  by_cases contained : parent = containerLabel
  · subst contained
    have looked : parentId containerLabel group id groups = .ok (ns ++ "_" ++ name) := asked
    refine ⟨_, rawEntityId?_of_container inside ofPod named, fun other => absurd rfl other,
      fun _ => ⟨rfl, looked, ?_⟩⟩
    rw [looked]
    exact fun same => joined_ne_joined_with_part ns pod name (Except.ok.inj same)
  · exact ⟨_, rawEntityId?_of_parentIdOf? contained points, fun _ => asked,
      fun same => absurd same contained⟩

end

theorem parentId_of_lone_pod :
    let s : Series :=
      ⟨.ofList [("container", "app"), ("namespace", "web"), ("pod", "front")], .gauge (.ofInt 1)⟩
    let child : RawMetrics := .singleton "kube_pod_container_info" (.single s)
    let groups : RawGroups := .singleton "container" (.singleton "web_front_app" child)
    groups.entity? "container" "web_front_app" = some child ∧ child.series = [s] ∧
      s.label? namespaceLabel = some "web" ∧ s.label? podLabel = some "front" ∧
      ∃ rawId, rawEntityId? podLabel s = some rawId ∧
        parentId podLabel "container" "web_front_app" groups = .ok rawId := by
  intro s child groups
  have present : groups.entity? "container" "web_front_app" = some child := by decide +kernel
  have inside : s.label? namespaceLabel = some "web" := by decide +kernel
  have ofPod : s.label? podLabel = some "front" := by decide +kernel
  obtain ⟨rawId, grouped, looked, _⟩ :=
    parentId_of_lone inside (by decide) ofPod (by decide) present rfl ofPod
  exact ⟨present, rfl, inside, ofPod, rawId, grouped, looked (by decide)⟩

/-- A volume that points to the container it belongs to: the container is there, and not found. -/
theorem parentId_of_lone_container :
    let info : Series :=
      ⟨.ofList [("container", "app"), ("namespace", "web"), ("pod", "front")], .gauge (.ofInt 1)⟩
    let s : Series := ⟨.ofList [("container", "app"), ("namespace", "web"), ("pod", "front"),
      ("volume", "data")], .gauge (.ofInt 1)⟩
    let child : RawMetrics := .singleton "volume_size" (.single s)
    let groups : RawGroups := .ofList [
      ("container", .singleton "web_front_app" (.singleton "kube_pod_container_info" (.single info))),
      ("volume", .singleton "web_data" child)]
    groups.entity? "volume" "web_data" = some child ∧ child.series = [s] ∧
      nonEmptyLabel? s namespaceLabel = some "web" ∧ nonEmptyLabel? s podLabel = some "front" ∧
      nonEmptyLabel? s containerLabel = some "app" ∧
      rawEntityId? containerLabel s = some "web_front_app" ∧
      parentId containerLabel "volume" "web_data" groups ≠ .ok "web_front_app" ∧
      parentSeries containerLabel "kube_pod_container_info" "volume" "web_data" groups =
        .error (.entityNotFound "container" "web_app") := by
  intro info s child groups
  decide +kernel

end Fetcher
end KubeEntities
