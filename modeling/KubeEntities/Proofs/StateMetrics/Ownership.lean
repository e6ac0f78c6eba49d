import KubeEntities.Proofs.Grouping.Separation
import KubeEntities.Proofs.Strategy.Identity
import KubeEntities.StateMetrics

/-! Which raw entities and which entity types belong to a namespace. The names of namespaces hold
neither of the characters that join the parts of raw IDs and of types, so both can be taken apart
again: all series of a raw entity that belongs to a namespace carry it as their label
(`label?_of_belongsTo`), and no type is that of entities in two namespaces (`LivesIn.unique`). -/

namespace KubeEntities.StateMetrics

/-- Names as clusters give them to namespaces. -/
def IsNamespaceName (ns : String) : Prop := '_' ∉ ns.toList ∧ ':' ∉ ns.toList

instance (ns : String) : Decidable (IsNamespaceName ns) := inferInstanceAs (Decidable (_ ∧ _))

def HasNamespaceNames (families : List Family) : Prop :=
  ∀ f ∈ families, ∀ s ∈ f.series, ∀ ns ∈ s.label? namespaceLabel, IsNamespaceName ns

instance (families : List Family) : Decidable (HasNamespaceNames families) :=
  inferInstanceAs
    (Decidable (∀ f ∈ families, ∀ s ∈ f.series, ∀ ns ∈ s.label? _, IsNamespaceName ns))

/-- Kinds of objects that live in a namespace and are typed by it alone. -/
def namespacedKinds : List String := ["deployment", "pod", "resourcequota", "service"]

/-- The types of entities in a namespace. -/
def LivesIn (cluster ns type : String) : Prop :=
  (∃ kind ∈ namespacedKinds, type = cluster ++ ":" ++ ns ++ ":" ++ kind) ∨
    ∃ pod, type = cluster ++ ":" ++ ns ++ ":" ++ pod ++ ":" ++ containerLabel

/-- The entities that are reported for a namespace: its own, and those in it. -/
def IsReportedFor (cluster ns name type : String) : Prop :=
  (name = ns ∧ type = cluster ++ ":" ++ namespaceLabel) ∨ LivesIn cluster ns type

/-- The raw entities behind them. -/
def BelongsTo (ns group id : String) : Prop :=
  (group = namespaceLabel ∧ id = ns) ∨
    group ∈ containerLabel :: namespacedKinds ∧ ∃ rest, id = ns ++ "_" ++ rest

section
variable {start text suffix : String}

theorem exists_append_iff : (∃ rest, text = start ++ rest) ↔ start.toList <+: text.toList := by
  constructor
  · rintro ⟨rest, rfl⟩
    exact ⟨rest.toList, String.toList_append.symm⟩
  · rintro ⟨rest, h⟩
    exact ⟨String.ofList rest, String.toList_inj.1 (by simp [h])⟩

theorem exists_between_iff : (∃ middle, text = start ++ middle ++ suffix) ↔
    start.toList <+: text.toList ∧ suffix.toList <:+ text.toList.drop start.toList.length := by
  constructor
  · rintro ⟨middle, rfl⟩
    simp [List.append_assoc]
  · rintro ⟨⟨rest, begun⟩, ended⟩
    rw [← begun, List.drop_left] at ended
    obtain ⟨middle, rfl⟩ := ended
    exact ⟨String.ofList middle, String.toList_inj.1 (by simp [← begun])⟩

instance decidableExistsAppend : Decidable (∃ rest, text = start ++ rest) :=
  decidable_of_iff _ exists_append_iff.symm

instance decidableExistsBetween : Decidable (∃ middle, text = start ++ middle ++ suffix) :=
  decidable_of_iff _ exists_between_iff.symm

end

instance (cluster ns type : String) : Decidable (LivesIn cluster ns type) :=
  have ended : (∃ pod, type = (cluster ++ ":" ++ ns ++ ":") ++ pod ++ (":" ++ containerLabel)) ↔
      ∃ pod, type = cluster ++ ":" ++ ns ++ ":" ++ pod ++ ":" ++ containerLabel := by
    simp only [String.append_assoc]
  haveI := decidable_of_iff _ ended
  inferInstanceAs (Decidable (_ ∨ _))

instance (cluster ns name type : String) : Decidable (IsReportedFor cluster ns name type) :=
  inferInstanceAs (Decidable (_ ∨ _))

instance (ns group id : String) : Decidable (BelongsTo ns group id) :=
  inferInstanceAs (Decidable (_ ∨ _))

section
variable {cluster ns ns' type : String}

theorem LivesIn.exists_rest (h : LivesIn cluster ns type) :
    ∃ rest, type = cluster ++ ":" ++ (ns ++ (":" ++ rest)) := by
  rcases h with ⟨kind, _, rfl⟩ | ⟨pod, rfl⟩
  · exact ⟨kind, by simp only [String.append_assoc]⟩
  · exact ⟨pod ++ ":" ++ containerLabel, by simp only [String.append_assoc]⟩

theorem LivesIn.unique (h : LivesIn cluster ns type) (h' : LivesIn cluster ns' type)
    (name : IsNamespaceName ns) (name' : IsNamespaceName ns') : ns = ns' := by
  obtain ⟨rest, rfl⟩ := h.exists_rest
  obtain ⟨rest', same⟩ := h'.exists_rest
  exact Text.eq_of_joined rfl name.2 name'.2 ((String.append_right_inj _).1 same)

theorem not_livesIn_of_clusterWide {group : String} (h : isClusterWide group = true) :
    ¬ LivesIn cluster ns (cluster ++ ":" ++ group) := by
  intro lives
  obtain ⟨rest, same⟩ := lives.exists_rest
  have text := (String.append_right_inj _).1 same
  have joined : ':' ∈ group.toList := by simp [text]
  have kinds : group = namespaceLabel ∨ group = nodeLabel := by simpa [isClusterWide] using h
  rcases kinds with rfl | rfl <;> exact absurd joined (by decide)

theorem not_livesIn_clusterEntityType : ¬ LivesIn cluster ns PopulationRun.clusterEntityType := by
  intro lives
  obtain ⟨rest, same⟩ := lives.exists_rest
  have joints := congrArg (·.toList.count ':') same
  have single : PopulationRun.clusterEntityType.toList.count ':' = 1 := by decide
  simp [single] at joints
  omega

theorem clusterEntityType_ne {start kind : String} (plain : ':' ∉ kind.toList)
    (other : kind ≠ PopulationRun.clusterCategory) :
    PopulationRun.clusterEntityType ≠ start ++ (":" ++ kind) := by
  intro same
  have parts :
      PopulationRun.clusterEntityType = "k8s" ++ (":" ++ PopulationRun.clusterCategory) := by
    decide
  exact other (Text.eq_of_joined_last rfl plain (by decide) (same.symm.trans parts))

theorem clusterEntityType_ne_of_clusterWide {group : String} (h : isClusterWide group = true) :
    PopulationRun.clusterEntityType ≠ cluster ++ ":" ++ group := by
  have kinds : group = namespaceLabel ∨ group = nodeLabel := by simpa [isClusterWide] using h
  rw [String.append_assoc]
  rcases kinds with rfl | rfl <;> exact clusterEntityType_ne (by decide) (by decide)

end

section
variable {ns group id : String} {s : Series}

theorem ne_clusterWide_of_mem (h : group ∈ containerLabel :: namespacedKinds) :
    isClusterWide group = false := by
  revert group
  decide

theorem ne_of_clusterWide {other : String} (h : group ∈ containerLabel :: namespacedKinds)
    (wide : isClusterWide other = true) : group ≠ other := by
  rintro rfl
  simp [ne_clusterWide_of_mem h] at wide

theorem label?_of_rawEntityId?_namespace (found : rawEntityId? namespaceLabel s = some id) :
    s.label? namespaceLabel = some id :=
  (rawEntityId?_of_clusterWide rfl s).symm.trans found

theorem BelongsTo.ne_node (own : BelongsTo ns group id) : group ≠ nodeLabel := by
  rcases own with ⟨rfl, _⟩ | ⟨kind, _⟩
  · decide
  · exact ne_of_clusterWide kind rfl

theorem label?_of_belongsTo (name : IsNamespaceName ns) (filled : ns ≠ "")
    (names : ∀ ns ∈ s.label? namespaceLabel, IsNamespaceName ns)
    (found : rawEntityId? group s = some id) (own : BelongsTo ns group id) :
    s.label? namespaceLabel = some ns := by
  rcases own with ⟨rfl, rfl⟩ | ⟨kind, rest, rfl⟩
  · exact label?_of_rawEntityId?_namespace found
  · by_cases contained : group = containerLabel
    · subst contained
      obtain ⟨other, pod, value, labelled, _, _, same⟩ :=
        rawEntityId?_container_eq_some_iff.1 found
      simp only [String.append_assoc] at same
      rw [labelled, Text.eq_of_joined rfl name.1 (names other labelled).1 same]
    · rw [rawEntityId?_of_other (ne_clusterWide_of_mem kind) contained] at found
      obtain ⟨value, _, same⟩ := Option.map_eq_some_iff.1 found
      simp only [String.append_assoc] at same
      have plain := Series.notMem_labelText fun ns labelled => (names ns labelled).1
      exact (Series.labelText_eq_iff filled).1 (Text.eq_of_joined rfl plain name.1 same)

theorem belongsTo_of_label? (kind : group ∈ containerLabel :: namespacedKinds)
    (found : rawEntityId? group s = some id) (labelled : s.label? namespaceLabel = some ns) :
    BelongsTo ns group id := by
  refine .inr ⟨kind, ?_⟩
  by_cases contained : group = containerLabel
  · subst contained
    obtain ⟨other, pod, name, labelled', _, _, rfl⟩ := rawEntityId?_container_eq_some_iff.1 found
    cases labelled.symm.trans labelled'
    exact ⟨pod ++ "_" ++ name, by simp only [String.append_assoc]⟩
  · rw [rawEntityId?_of_other (ne_clusterWide_of_mem kind) contained,
      Series.labelText_eq labelled] at found
    obtain ⟨name, _, rfl⟩ := Option.map_eq_some_iff.1 found
    exact ⟨name, rfl⟩

theorem belongsTo_of_parentIdOf? {parent parentId : String} (filled : ns ≠ "")
    (inherits : parent ≠ nodeLabel)
    (kind : isClusterWide parent = true ∨ parent ∈ containerLabel :: namespacedKinds)
    (labelled : s.label? namespaceLabel = some ns)
    (h : Fetcher.parentIdOf? parent s = some parentId) : BelongsTo ns parent parentId := by
  have own := Fetcher.nonEmptyLabel?_eq_some labelled filled
  unfold Fetcher.parentIdOf? at h
  rcases kind with wide | kind
  · have itself : parent = namespaceLabel := by simpa [isClusterWide, inherits] using wide
    rw [if_pos wide, itself, own] at h
    exact .inl ⟨itself, (Option.some_inj.1 h).symm⟩
  · rw [ne_clusterWide_of_mem kind, if_neg (by simp), own] at h
    split at h
    · rename_i other name same _
      cases same
      cases h
      exact .inr ⟨kind, name, rfl⟩
    · cases h

end

end KubeEntities.StateMetrics
