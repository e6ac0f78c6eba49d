import KubeEntities.Proofs.Grouping.Neutral
import KubeEntities.Proofs.Population.Values
import KubeEntities.Proofs.Strategy.Parents

/-! Strategies and the kinds of numbers. Names, types and namespaces are read off labels, so they are
the same in a snapshot and in its neutral form (`IsKindBlind`). What is fetched from the neutral form
is the neutral form of what is fetched (`Fetcher.IsKindBlind`): numbers lose their kind, and the
entries of a fan-out that bring a source type of their own bring a neutral one. -/

namespace KubeEntities

theorem RawGroups.metric_neutral (groups : RawGroups) (group id key : String) :
    groups.neutral.metric group id key = (groups.metric group id key).map RawValue.neutral := by
  unfold metric
  rw [entity?_neutral]
  cases groups.entity? group id with
  | none => rfl
  | some raw =>
    rw [Option.map_some]
    dsimp only
    rw [RawMetrics.find?_neutral]
    cases raw.find? key <;> rfl

def SourceType.neutral (type : SourceType) : SourceType := if type.isNumeric then .gauge else type

@[simp] theorem SourceType.isNumeric_neutral (type : SourceType) :
    type.neutral.isNumeric = type.isNumeric := by cases type <;> rfl

namespace Fetched

/-- A fan-out within a fan-out is never written, so it is left as it is. -/
def neutralScalar : Fetched → Fetched
  | .value v => .value v.neutral
  | found => found

def neutral : Fetched → Fetched
  | .values entries => .values (entries.map fun (name, found) => (name, found.neutralScalar))
  | .typed entries =>
    .typed (entries.map fun (name, found, type) => (name, found.neutralScalar, type.neutral))
  | found => found.neutralScalar

end Fetched

def IsKindBlind {α : Type} (read : String → String → RawGroups → α) : Prop :=
  ∀ group id groups, read group id groups.neutral = read group id groups

/-- The neutral form is fetched from the neutral form. -/
def Fetcher.IsKindBlind (fetch : Fetcher) : Prop :=
  ∀ group id groups,
    fetch group id groups.neutral = (fetch group id groups).map (Option.map Fetched.neutral)

structure SpecGroup.IsKindBlind (g : SpecGroup) : Prop where
  specs : ∀ s ∈ g.specs, Fetcher.IsKindBlind s.fetch
  type : KubeEntities.IsKindBlind g.type
  id : ∀ generate ∈ g.id, KubeEntities.IsKindBlind generate
  namespaceOf : ∀ getter ∈ g.namespaceOf, KubeEntities.IsKindBlind getter

namespace Fetcher

theorem firstSeries_neutral (key : String) (raw : RawValue) :
    firstSeries key raw.neutral = (firstSeries key raw).map Series.neutral := by
  unfold firstSeries
  rw [RawValue.series_neutral]
  cases raw.series <;> rfl

theorem isKindBlind_labelOf (metric label : String) :
    KubeEntities.IsKindBlind (labelOf metric label) := by
  intro group id groups
  unfold labelOf
  rw [RawGroups.metric_neutral]
  cases groups.metric group id metric with
  | error cause => rfl
  | ok raw =>
    change firstSeries metric raw.neutral >>= _ = firstSeries metric raw >>= _
    rw [firstSeries_neutral]
    cases firstSeries metric raw <;> rfl

theorem isKindBlind_fromLabel (metric label : String) : IsKindBlind (fromLabel metric label) := by
  intro group id groups
  rw [fromLabel, isKindBlind_labelOf, fromLabel]
  cases labelOf metric label group id groups <;> rfl

theorem isKindBlind_fromValue (metric : String) : IsKindBlind (fromValue metric) := by
  intro group id groups
  unfold fromValue
  rw [RawGroups.metric_neutral]
  cases groups.metric group id metric with
  | error cause => rfl
  | ok raw =>
    cases raw with
    | slice series => rfl
    | single s =>
      change Except.ok (if s.value.neutral.isAbsent then none else some (.value s.value.neutral)) =
        Except.ok (Option.map Fetched.neutral (if s.value.isAbsent then none else some _))
      rw [Value.isAbsent_neutral]
      split <;> rfl

theorem keyedSourceType_neutral (v : Value) :
    (keyedSourceType v).neutral = .gauge ∧ keyedSourceType v.neutral = .gauge := by
  cases v <;> exact ⟨rfl, rfl⟩

theorem keyedValues_neutral (label : String) (series : List Series) :
    keyedValues label (series.map Series.neutral) =
      (keyedValues label series).map fun _ e => (e.1.neutralScalar, e.2.neutral) := by
  rw [keyedValues, keyedValues, SortedMap.map_ofList, List.filterMap_map, List.map_filterMap]
  congr 2
  funext s
  simp only [Function.comp_apply, Series.label?_neutral, Series.value_neutral,
    Value.isAbsent_neutral]
  cases s.label? label with
  | none => rfl
  | some key =>
    cases s.value.isAbsent with
    | true => rfl
    | false =>
      simp [keyedSourceType_neutral, Fetched.neutralScalar]

theorem isKindBlind_fromValuesKeyedByLabel (metric label : String) :
    IsKindBlind (fromValuesKeyedByLabel metric label) := by
  intro group id groups
  have read := groups.metric_neutral group id metric
  cases stored : groups.metric group id metric with
  | error cause =>
    rw [stored] at read
    rw [fromValuesKeyedByLabel, read, fromValuesKeyedByLabel, stored]
    rfl
  | ok raw =>
    rw [stored] at read
    rw [fromValuesKeyedByLabel_eq read, fromValuesKeyedByLabel_eq stored, RawValue.series_neutral,
      List.any_map, keyedValues_neutral]
    have labelled : ((fun s : Series => (s.label? label).isSome) ∘ Series.neutral) =
        fun s => (s.label? label).isSome := rfl
    have vacant (m : SortedMap (Fetched × SourceType)) :
        (m.map fun _ e => (e.1.neutralScalar, e.2.neutral)).isEmpty = m.isEmpty :=
      List.isEmpty_map
    rw [labelled, vacant]
    split
    · split <;> rfl
    · rfl

theorem neutral_values_of_texts {entries : List (String × Fetched)}
    (texts : ∀ entry ∈ entries, ∃ text, entry.2 = .text text) :
    (Fetched.values entries).neutral = .values entries := by
  have each : ∀ entry ∈ entries, (entry.1, entry.2.neutralScalar) = entry := by
    intro entry listed
    obtain ⟨text, same⟩ := texts entry listed
    rw [same]
    exact Prod.ext rfl same.symm
  exact congrArg Fetched.values ((List.map_congr_left each).trans (List.map_id entries))

theorem text_of_mem_inheritedLabels {labels : Labels} {entry : String × Fetched}
    (h : entry ∈ (inheritedLabels labels).entries) : ∃ text, entry.2 = .text text := by
  have listed := SortedMap.mem_of_find?_ofList (SortedMap.find?_eq_some_iff.2 h)
  obtain ⟨label, _, same⟩ := List.mem_map.1 listed
  exact ⟨label.2, congrArg Prod.snd same.symm⟩

theorem text_of_mem_chosenLabels {metric : String} {names : SortedMap String} {s : Series}
    {found : Option Fetched} (h : chosenLabels metric names s = .ok found) :
    ∃ entries, found = some (.values entries) ∧
      ∀ entry ∈ entries, ∃ text, entry.2 = .text text := by
  obtain ⟨entries, read, h⟩ := Except.bind_eq_ok h
  cases h
  refine ⟨entries, rfl, fun entry listed => ?_⟩
  obtain ⟨name, _, chosen⟩ := Except.exists_of_mem_mapM read listed
  obtain ⟨value, _, rfl⟩ := chosenLabel_eq_ok chosen
  exact ⟨value, rfl⟩

theorem isKindBlind_parentId (parent : String) : KubeEntities.IsKindBlind (parentId parent) := by
  intro group id groups
  cases present : groups.entity? group id with
  | none =>
    have absent : groups.neutral.entity? group id = none := by
      rw [RawGroups.entity?_neutral, present]
      rfl
    simp only [parentId, RawGroups.entity, absent, present]
  | some child =>
    have there : groups.neutral.entity? group id = some child.neutral := by
      rw [RawGroups.entity?_neutral, present]
      rfl
    rw [parentId_of_entity? there, parentId_of_entity? present, RawMetrics.series_neutral,
      List.findSome?_map]
    rfl

theorem parentSeries_neutral (parent metric group id : String) (groups : RawGroups) :
    parentSeries parent metric group id groups.neutral =
      (parentSeries parent metric group id groups).map Series.neutral := by
  unfold parentSeries
  rw [isKindBlind_parentId]
  cases parentId parent group id groups with
  | error cause => rfl
  | ok parentId =>
    change groups.neutral.metric parent parentId metric >>= _ =
      Except.map _ (groups.metric parent parentId metric >>= _)
    rw [RawGroups.metric_neutral]
    cases groups.metric parent parentId metric with
    | error cause => rfl
    | ok raw => exact firstSeries_neutral metric raw

theorem isKindBlind_inheritAll (parent metric : String) :
    IsKindBlind (inheritAll parent metric) := by
  intro group id groups
  rw [inheritAll_eq, parentSeries_neutral, inheritAll_eq]
  cases parentSeries parent metric group id groups with
  | error cause => rfl
  | ok s =>
    have texts : ∀ entry ∈ (inheritedLabels s.labels).entries, ∃ text, entry.2 = .text text :=
      fun _ => text_of_mem_inheritedLabels
    exact congrArg (fun found => Except.ok (some found)) (neutral_values_of_texts texts).symm

theorem isKindBlind_inheritSome (parent metric : String) (names : SortedMap String) :
    IsKindBlind (inheritSome parent metric names) := by
  intro group id groups
  rw [inheritSome_eq, parentSeries_neutral, inheritSome_eq]
  cases parentSeries parent metric group id groups with
  | error cause => rfl
  | ok s =>
    change chosenLabels metric names s = Except.map _ (chosenLabels metric names s)
    cases chosen : chosenLabels metric names s with
    | error cause => rfl
    | ok found =>
      obtain ⟨entries, rfl, texts⟩ := text_of_mem_chosenLabels chosen
      exact congrArg (fun found => Except.ok (some found)) (neutral_values_of_texts texts).symm

end Fetcher

theorem anchorLabel_neutral (metric : String) (raw : RawValue) (label : String) :
    anchorLabel metric raw.neutral label = anchorLabel metric raw label := by
  cases raw <;> rfl

theorem IdGenerator.isKindBlind_fromLabel (metric label : String) :
    IsKindBlind (fromLabel metric label) := by
  intro group id groups
  unfold fromLabel
  rw [RawGroups.metric_neutral]
  cases groups.metric group id metric with
  | error cause => rfl
  | ok raw => exact anchorLabel_neutral metric raw label

theorem IdGenerator.isKindBlind_pendingPod (metric : String) : IsKindBlind (pendingPod metric) := by
  intro group id groups
  unfold pendingPod
  rw [RawGroups.metric_neutral]
  cases groups.metric group id metric with
  | error cause => rfl
  | ok raw =>
    change anchorLabel metric raw.neutral podLabel >>= _ = anchorLabel metric raw podLabel >>= _
    simp only [anchorLabel_neutral]

theorem TypeGenerator.isKindBlind_fromLabels (metric : String) :
    IsKindBlind (fromLabels metric) := by
  intro group id groups
  funext cluster
  have required (label : String) : requiredLabel metric label group id groups.neutral =
      requiredLabel metric label group id groups := by
    rw [requiredLabel, Fetcher.isKindBlind_labelOf, requiredLabel]
  simp only [fromLabels, required]

theorem NamespaceGetter.isKindBlind_fromLabel : IsKindBlind fromLabel := by
  intro group id groups
  unfold fromLabel
  rw [RawGroups.entity?_neutral]
  cases groups.entity? group id with
  | none => rfl
  | some raw =>
    simp only [Option.map_some, Option.bind_some, RawMetrics.series_neutral, List.findSome?_map]
    rfl

end KubeEntities
