import KubeEntities.Proofs.Strategy.Parents

/-! Labels that are handed on whole. A label goes by its name without a leading `label_`, so two
labels of a series go by one name exactly when one is named like the other behind `label_`
(`inheritedName_eq_iff`). Of such two only the later one in order is handed on, and apart from them
no label is lost (`inheritAll_labels`). -/

namespace KubeEntities.Fetcher

def IsPrefixed (label : String) : Prop := ∃ name, label = "label_" ++ name

theorem isPrefixed_iff {label : String} :
    IsPrefixed label ↔ labelPrefix.isPrefixOf label.toList = true := by
  rw [List.isPrefixOf_iff_prefix]
  constructor
  · rintro ⟨name, rfl⟩
    exact ⟨name.toList, by rw [String.toList_append]; rfl⟩
  · rintro ⟨rest, same⟩
    have tail : (String.ofList rest).toList = rest := String.toList_ofList
    refine ⟨String.ofList rest, String.toList_inj.1 ?_⟩
    rw [String.toList_append, tail]
    exact same.symm

theorem inheritedName_prefixed (name : String) :
    inheritedName ("label_" ++ name) = "label." ++ name := by
  have marked := isPrefixed_iff.1 ⟨name, rfl⟩
  have length : labelPrefix.length = "label_".toList.length := rfl
  rw [inheritedName, if_pos marked, String.toList_append, length, List.drop_left,
    String.ofList_toList]

theorem inheritedName_of_not_isPrefixed {name : String} (plain : ¬IsPrefixed name) :
    inheritedName name = "label." ++ name := by
  rw [inheritedName, if_neg fun marked => plain (isPrefixed_iff.2 marked)]

theorem inheritedName_eq_iff {a b : String} (other : a ≠ b) :
    inheritedName a = inheritedName b ↔
      (¬IsPrefixed b ∧ a = "label_" ++ b) ∨ (¬IsPrefixed a ∧ b = "label_" ++ a) := by
  have marked (name : String) : IsPrefixed ("label_" ++ name) := ⟨name, rfl⟩
  by_cases markedA : IsPrefixed a <;> by_cases markedB : IsPrefixed b
  · obtain ⟨a, rfl⟩ := markedA
    obtain ⟨b, rfl⟩ := markedB
    simpa [inheritedName_prefixed, marked] using other
  · obtain ⟨a, rfl⟩ := markedA
    simp [inheritedName_prefixed, inheritedName_of_not_isPrefixed markedB, markedB, marked]
  · obtain ⟨b, rfl⟩ := markedB
    simp [inheritedName_prefixed, inheritedName_of_not_isPrefixed markedA, markedA, marked,
      eq_comm]
  · have apartA : a ≠ "label_" ++ b := fun same => markedA (same ▸ marked _)
    have apartB : b ≠ "label_" ++ a := fun same => markedB (same ▸ marked _)
    simp [inheritedName_of_not_isPrefixed markedA, inheritedName_of_not_isPrefixed markedB, other,
      apartA, apartB]

theorem inheritedLabels_size (labels : Labels) :
    (inheritedLabels labels).size = labels.size ↔
      ∀ a ∈ labels.keys, ∀ b ∈ labels.keys, inheritedName a = inheritedName b → a = b := by
  have listed := SortedMap.size_ofList_eq_iff
    (labels.entries.map fun label => (inheritedName label.1, Fetched.text label.2))
  rw [List.length_map, List.map_map] at listed
  have names : labels.entries.map ((·.1) ∘ fun label =>
      (inheritedName label.1, Fetched.text label.2)) = labels.keys.map inheritedName := by
    simp [SortedMap.keys]
  rw [names, List.nodup_map_iff_inj_on labels.nodup_keys] at listed
  exact listed

theorem find?_inheritedLabels_last {labels : Labels} {label value : String}
    (there : labels.find? label = some value)
    (last : ∀ other ∈ labels.keys, inheritedName other = inheritedName label → other ≤ label) :
    (inheritedLabels labels).find? (inheritedName label) = some (.text value) := by
  obtain ⟨before, after, cut⟩ := List.append_of_mem (SortedMap.find?_eq_some_iff.1 there)
  have sorted := labels.sorted
  rw [cut, List.pairwise_append] at sorted
  rw [inheritedLabels, cut, List.map_append, List.map_cons]
  refine SortedMap.find?_ofList_last (fun e he => ?_) _
  obtain ⟨⟨other, text⟩, later, rfl⟩ := List.mem_map.1 he
  have listed : other ∈ labels.keys := by
    simpa [SortedMap.keys, cut] using .inr (.inr ⟨text, later⟩)
  exact fun same => String.not_lt.2 (last other listed same)
    ((List.pairwise_cons.1 sorted.2.1).1 _ later)

/-- A name without a leading `label_` under which there is a label, beside one of that name behind
`label_`. -/
structure Doubles (labels : Labels) (name : String) : Prop where
  plain : ¬IsPrefixed name
  bare : name ∈ labels.keys
  marked : "label_" ++ name ∈ labels.keys

theorem eq_of_inheritedName_eq_iff (labels : Labels) :
    (∀ a ∈ labels.keys, ∀ b ∈ labels.keys, inheritedName a = inheritedName b → a = b) ↔
      ∀ name, ¬Doubles labels name := by
  constructor
  · intro apart name doubled
    have same := apart _ doubled.marked _ doubled.bare (by
      rw [inheritedName_prefixed, inheritedName_of_not_isPrefixed doubled.plain])
    exact doubled.plain ⟨name, same.symm⟩
  · intro single a ha b hb same
    by_contra other
    rcases (inheritedName_eq_iff other).1 same with ⟨plain, rfl⟩ | ⟨plain, rfl⟩
    · exact single b ⟨plain, hb, ha⟩
    · exact single a ⟨plain, ha, hb⟩

/-- The label that is handed on by a doubled name. -/
def survivor (name : String) : String :=
  if "label_" ++ name < name then name else "label_" ++ name

theorem le_survivor (name : String) : name ≤ survivor name ∧ "label_" ++ name ≤ survivor name := by
  unfold survivor
  split
  · rename_i earlier
    exact ⟨String.le_refl _, String.not_lt.1 (String.lt_asymm earlier)⟩
  · rename_i later
    exact ⟨String.not_lt.1 later, String.le_refl _⟩

section
variable {labels : Labels} {name : String} (doubled : Doubles labels name)
include doubled

theorem Doubles.survives :
    survivor name ∈ labels.keys ∧ inheritedName (survivor name) = "label." ++ name := by
  unfold survivor
  split
  · exact ⟨doubled.bare, inheritedName_of_not_isPrefixed doubled.plain⟩
  · exact ⟨doubled.marked, inheritedName_prefixed name⟩

theorem Doubles.eq_or_eq {other : String} (same : inheritedName other = "label." ++ name) :
    other = name ∨ other = "label_" ++ name := by
  by_cases bare : other = name
  · exact .inl bare
  · rw [← inheritedName_of_not_isPrefixed doubled.plain, inheritedName_eq_iff bare] at same
    rcases same with ⟨_, marked⟩ | ⟨_, marked⟩
    · exact .inr marked
    · exact absurd ⟨other, marked⟩ doubled.plain

theorem Doubles.find?_inheritedLabels :
    (inheritedLabels labels).find? ("label." ++ name) =
      (labels.find? (survivor name)).map .text := by
  obtain ⟨there, named⟩ := doubled.survives
  obtain ⟨value, held⟩ := Option.isSome_iff_exists.1 (SortedMap.mem_keys_iff.1 there)
  have last := find?_inheritedLabels_last held fun other _ same => by
    rcases doubled.eq_or_eq (same.trans named) with rfl | rfl
    · exact (le_survivor _).1
    · exact (le_survivor _).2
  rw [named] at last
  rw [last, held]
  rfl

end

/-- Inheriting all labels of a parent comes to one entry for each name that its labels go by, with
the value of the last of them in order. So each label has an entry of its own that holds its value
exactly when no name is doubled. Of a doubled name one label is lost. -/
theorem inheritAll_labels {parent metric group id : String} {groups : RawGroups} {s : Series}
    (resolved : parentSeries parent metric group id groups = .ok s) :
    ∃ found : SortedMap Fetched,
      inheritAll parent metric group id groups = .ok (some (.values found.entries)) ∧
      (∀ name, found.find? name =
        ((s.labels.entries.filter fun label => inheritedName label.1 == name).getLast?).map
          fun label => .text label.2) ∧
      ((found.size = s.labels.size ∧ ∀ label value, s.label? label = some value →
          found.find? (inheritedName label) = some (.text value)) ↔
        ∀ name, ¬Doubles s.labels name) ∧
      ∀ name, Doubles s.labels name →
        found.find? ("label." ++ name) = (s.label? (survivor name)).map .text := by
  refine ⟨inheritedLabels s.labels, ?_, fun name => ?_, ?_, fun _ doubled =>
    doubled.find?_inheritedLabels⟩
  · rw [inheritAll_eq, resolved]
    rfl
  · rw [List.getLast?_filter, inheritedLabels, SortedMap.find?_ofList, ← List.map_reverse,
      List.find?_map]
    simp [Function.comp_def]
  · rw [← eq_of_inheritedName_eq_iff, ← inheritedLabels_size]
    refine ⟨And.left, fun whole => ⟨whole, fun label value held => ?_⟩⟩
    have apart := (inheritedLabels_size s.labels).1 whole
    have listed := SortedMap.mem_keys_iff.2 (Option.isSome_of_eq_some held)
    refine find?_inheritedLabels_last held fun other there same => ?_
    exact apart other there label listed same ▸ String.le_refl _

/-- A label that names itself behind `label_` twice is no double of one that does so once. -/
theorem inheritAll_labels_team :
    let child : Series :=
      ⟨.ofList [("container", "app"), ("namespace", "web"), ("pod", "front")], .gauge (.ofInt 1)⟩
    let pod : Series := ⟨.ofList [("label_label_team", "b"), ("label_team", "a"),
      ("namespace", "web"), ("pod", "front")], .gauge (.ofInt 1)⟩
    let groups : RawGroups := .ofList [
      ("container", .singleton "web_front_app" (.singleton "kube_pod_info" (.single child))),
      ("pod", .singleton "web_front" (.singleton "kube_pod_labels" (.single pod)))]
    parentSeries "pod" "kube_pod_labels" "container" "web_front_app" groups = .ok pod ∧
      ∃ found : SortedMap Fetched,
        inheritAll "pod" "kube_pod_labels" "container" "web_front_app" groups =
          .ok (some (.values found.entries)) ∧
        found.size = 4 ∧ found.find? "label.team" = some (.text "a") ∧
          found.find? "label.label_team" = some (.text "b") := by
  intro child pod groups
  have resolved : parentSeries "pod" "kube_pod_labels" "container" "web_front_app" groups =
      .ok pod := by
    decide +kernel
  obtain ⟨found, read, _, whole, _⟩ := inheritAll_labels resolved
  have single : ∀ name, ¬Doubles pod.labels name := by
    rw [← eq_of_inheritedName_eq_iff]
    decide +kernel
  obtain ⟨size, held⟩ := whole.2 single
  exact ⟨resolved, found, read, size, held "label_team" "a" (by decide +kernel),
    held "label_label_team" "b" (by decide +kernel)⟩

/-- A pod whose owner labelled it by `namespace`. -/
theorem inheritAll_labels_doubled :
    let child : Series :=
      ⟨.ofList [("container", "app"), ("namespace", "web"), ("pod", "front")], .gauge (.ofInt 1)⟩
    let pod : Series := ⟨.ofList [("label_namespace", "team"), ("namespace", "web"),
      ("pod", "front")], .gauge (.ofInt 1)⟩
    let groups : RawGroups := .ofList [
      ("container", .singleton "web_front_app" (.singleton "kube_pod_info" (.single child))),
      ("pod", .singleton "web_front" (.singleton "kube_pod_labels" (.single pod)))]
    parentSeries "pod" "kube_pod_labels" "container" "web_front_app" groups = .ok pod ∧
      ¬∃ found : SortedMap Fetched,
        inheritAll "pod" "kube_pod_labels" "container" "web_front_app" groups =
          .ok (some (.values found.entries)) ∧
        found.size = pod.labels.size ∧ ∀ label value, pod.label? label = some value →
          found.find? (inheritedName label) = some (.text value) := by
  intro child pod groups
  have resolved : parentSeries "pod" "kube_pod_labels" "container" "web_front_app" groups =
      .ok pod := by
    decide +kernel
  refine ⟨resolved, ?_⟩
  rintro ⟨found, read, size, _⟩
  rw [inheritAll_eq, resolved] at read
  have same : inheritedLabels pod.labels = found :=
    SortedMap.ext_entries (Fetched.values.inj (Option.some.inj (Except.ok.inj read)))
  rw [← same] at size
  exact absurd size (by decide +kernel)

end KubeEntities.Fetcher
