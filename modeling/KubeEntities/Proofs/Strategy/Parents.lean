import KubeEntities.Proofs.Grouping.Separation
import KubeEntities.Proofs.Grouping.Stored
import KubeEntities.Proofs.Strategy.Identity

/-! Parents of entities. A series that points to a parent at all was grouped into that parent, for
both raw IDs are made of the same labels (`rawEntityId?_of_parentIdOf?`); only containers are
grouped by one label more. In a snapshot that comes out of grouping the parent of an entity is
therefore there whenever the entity points to one (`inherit_group`). -/

namespace KubeEntities

theorem Except.bind_eq_error {ε α β : Type} {x : Except ε α} {f : α → Except ε β} {e : ε}
    (h : x >>= f = .error e) : x = .error e ∨ ∃ a, x = .ok a ∧ f a = .error e := by
  cases x with
  | error e' =>
    cases h
    exact .inl rfl
  | ok a => exact .inr ⟨a, rfl, h⟩

theorem Except.mapM_eq_error {ε α β : Type} {l : List α} {f : α → Except ε β} {e : ε}
    (h : l.mapM f = .error e) : ∃ a ∈ l, f a = .error e := by
  induction l with
  | nil => cases h
  | cons a l ih =>
    rw [List.mapM_cons] at h
    rcases Except.bind_eq_error h with h | ⟨first, _, h⟩
    · exact ⟨a, List.mem_cons_self, h⟩
    · rcases Except.bind_eq_error h with h | ⟨rest, _, h⟩
      · obtain ⟨a', listed, failed⟩ := ih h
        exact ⟨a', List.mem_cons_of_mem _ listed, failed⟩
      · cases h

theorem Except.exists_of_mem_mapM {ε α β : Type} {l : List α} {f : α → Except ε β} {r : List β}
    (h : l.mapM f = .ok r) {b : β} (hb : b ∈ r) : ∃ a ∈ l, f a = .ok b := by
  induction l generalizing r with
  | nil =>
    cases h
    exact absurd hb List.not_mem_nil
  | cons a l ih =>
    rw [List.mapM_cons] at h
    obtain ⟨first, read, h⟩ := Except.bind_eq_ok h
    obtain ⟨rest, others, h⟩ := Except.bind_eq_ok h
    cases h
    rcases List.mem_cons.1 hb with rfl | hb
    · exact ⟨a, List.mem_cons_self, read⟩
    · obtain ⟨a', listed, read⟩ := ih others hb
      exact ⟨a', List.mem_cons_of_mem _ listed, read⟩

def RawMetrics.first (raw : RawMetrics) (metric : String) : Except ResolveError Series :=
  match raw.find? metric with
  | none => .error (.metricNotFound metric)
  | some stored => Fetcher.firstSeries metric stored

theorem RawMetrics.first_eq_error {raw : RawMetrics} {metric : String} {cause : ResolveError}
    (h : raw.first metric = .error cause) : cause = .metricNotFound metric := by
  unfold first at h
  split at h
  · cases h
    rfl
  · unfold Fetcher.firstSeries at h
    split at h
    · cases h
      rfl
    · cases h

namespace Fetcher

theorem nonEmptyLabel?_eq_some_iff {s : Series} {label value : String} :
    nonEmptyLabel? s label = some value ↔ s.label? label = some value ∧ value ≠ "" := by
  constructor
  · intro h
    unfold nonEmptyLabel? at h
    split at h
    · cases h
    · rename_i filled
      exact ⟨h, fun blank => filled (blank ▸ h)⟩
  · rintro ⟨labelled, filled⟩
    exact nonEmptyLabel?_eq_some labelled filled

theorem rawEntityId?_of_parentIdOf? {parent id : String} {s : Series}
    (other : parent ≠ containerLabel) (h : parentIdOf? parent s = some id) :
    rawEntityId? parent s = some id := by
  unfold parentIdOf? at h
  split at h
  · rename_i wide
    rw [rawEntityId?_of_clusterWide wide]
    exact (nonEmptyLabel?_eq_some_iff.1 h).1
  · rename_i wide
    split at h
    · rename_i ns name inside pointed
      cases h
      have inside := (nonEmptyLabel?_eq_some_iff.1 inside).1
      have pointed := (nonEmptyLabel?_eq_some_iff.1 pointed).1
      rw [rawEntityId?_of_other (by simpa using wide) other, pointed, Series.labelText_eq inside]
      rfl
    · cases h

def allLabels (s : Series) : Except ResolveError (Option Fetched) :=
  .ok (some (.values (inheritedLabels s.labels).entries))

def chosenLabel (metric : String) (s : Series) :
    String × String → Except ResolveError (String × Fetched)
  | (name, label) =>
    match s.label? label with
    | none => .error (.labelNotFound metric label)
    | some value => .ok (name, .text value)

theorem chosenLabel_eq_error {metric : String} {s : Series} {name : String × String}
    {cause : ResolveError} (h : chosenLabel metric s name = .error cause) :
    cause = .labelNotFound metric name.2 := by
  obtain ⟨name, label⟩ := name
  rw [chosenLabel] at h
  split at h
  · cases h
    rfl
  · cases h

theorem chosenLabel_eq_ok {metric : String} {s : Series} {name : String × String}
    {entry : String × Fetched} (h : chosenLabel metric s name = .ok entry) :
    ∃ value, s.label? name.2 = some value ∧ entry = (name.1, .text value) := by
  obtain ⟨name, label⟩ := name
  rw [chosenLabel] at h
  split at h
  · cases h
  · rename_i value labelled
    cases h
    exact ⟨value, labelled, rfl⟩

def chosenLabels (metric : String) (names : SortedMap String) (s : Series) :
    Except ResolveError (Option Fetched) := do
  return some (.values (← names.entries.mapM (chosenLabel metric s)))

theorem inheritAll_eq (parent metric group id : String) (groups : RawGroups) :
    inheritAll parent metric group id groups =
      parentSeries parent metric group id groups >>= allLabels := rfl

theorem inheritSome_eq (parent metric : String) (names : SortedMap String) (group id : String)
    (groups : RawGroups) :
    inheritSome parent metric names group id groups =
      parentSeries parent metric group id groups >>= chosenLabels metric names := rfl

theorem chosenLabels_eq_error {metric : String} {names : SortedMap String} {s : Series}
    {cause : ResolveError} (h : chosenLabels metric names s = .error cause) :
    ∃ label ∈ names.values, cause = .labelNotFound metric label := by
  rcases Except.bind_eq_error h with h | ⟨read, _, h⟩
  · obtain ⟨name, listed, failed⟩ := Except.mapM_eq_error h
    exact ⟨name.2, List.mem_map_of_mem listed, chosenLabel_eq_error failed⟩
  · cases h

section
variable {parent group id : String} {groups : RawGroups} {child : RawMetrics}

theorem parentId_of_entity? (present : groups.entity? group id = some child) (parent : String) :
    parentId parent group id groups =
      ((child.series.findSome? (parentIdOf? parent)).elim
        (.error (.parentNotFound parent group id)) .ok) := by
  have entity : groups.entity group id = .ok child := by
    unfold RawGroups.entity
    rw [present]
  rw [parentId, entity]
  change (match child.series.findSome? (parentIdOf? parent) with
    | none => Except.error (ResolveError.parentNotFound parent group id)
    | some parentId => .ok parentId) = _
  cases child.series.findSome? (parentIdOf? parent) <;> rfl

theorem parentSeries_of_parentId {parentId metric : String} {raw : RawMetrics}
    (points : Fetcher.parentId parent group id groups = .ok parentId)
    (there : groups.entity? parent parentId = some raw) :
    parentSeries parent metric group id groups = raw.first metric := by
  unfold parentSeries
  rw [points]
  change groups.metric parent parentId metric >>= firstSeries metric = raw.first metric
  unfold RawGroups.metric RawMetrics.first
  rw [there]
  dsimp only
  cases raw.find? metric <;> rfl

end
end Fetcher

/-- A series that the first raw entity holds was grouped into the second one too. -/
def RawGroups.Overlap (groups : RawGroups) (families : List Family)
    (group id other otherId : String) : Prop :=
  ∃ metric value s, (groups.entity? group id).bind (·.find? metric) = some value ∧
    s ∈ value.series ∧ s ∈ seriesOf families other otherId metric

theorem mem_seriesOf {families : List Family} {group id metric : String} {s : Series} :
    s ∈ seriesOf families group id metric ↔
      (∃ f ∈ families, f.name = metric ∧ s ∈ f.series) ∧ rawEntityId? group s = some id := by
  simp only [seriesOf, List.mem_flatMap, List.mem_filter, beq_iff_eq]
  constructor
  · rintro ⟨f, ⟨hf, named⟩, hs, mine⟩
    exact ⟨⟨f, hf, named, hs⟩, mine⟩
  · rintro ⟨⟨f, hf, named, hs⟩, mine⟩
    exact ⟨f, ⟨hf, named⟩, hs, mine⟩

theorem mem_of_storedOf? {sliceMetric : Option String} {metric : String} {mine : List Series}
    {value : RawValue} (h : storedOf? sliceMetric metric mine = some value) {s : Series}
    (hs : s ∈ value.series) : s ∈ mine := by
  obtain ⟨last, found, rfl⟩ := Option.map_eq_some_iff.1 h
  split at hs
  · exact hs
  · rw [List.mem_singleton.1 hs]
    exact List.mem_of_getLast? found

namespace SpecTable
variable {table : SpecTable} {families : List Family} {parent group id : String}
  {child : RawMetrics} (declared : (table.find? parent).isSome = true)
  (other : parent ≠ containerLabel)
  (present : (table.group families).groups.entity? group id = some child)
include declared other present

theorem parent_of_mem_series {s : Series} (inside : s ∈ child.series) {parentId : String}
    (points : Fetcher.parentIdOf? parent s = some parentId) :
    (∃ raw, (table.group families).groups.entity? parent parentId = some raw) ∧
      (table.group families).groups.Overlap families group id parent parentId := by
  obtain ⟨metric, value, found, inside⟩ := RawMetrics.mem_series_iff.1 inside
  have stored : ((table.group families).groups.entity? group id).bind (·.find? metric) =
      some value := by rw [present, Option.bind_some, found]
  have shared : s ∈ seriesOf families parent parentId metric := by
    have origin := stored
    rw [stored_group] at origin
    obtain ⟨spec, _, origin⟩ := Option.bind_eq_some_iff.1 origin
    have mine := mem_seriesOf.1 (mem_of_storedOf? origin inside)
    exact mem_seriesOf.2 ⟨mine.1, Fetcher.rawEntityId?_of_parentIdOf? other points⟩
  refine ⟨?_, metric, value, s, stored, inside, shared⟩
  obtain ⟨spec, found⟩ := Option.isSome_iff_exists.1 declared
  have there := stored_group table families parent parentId metric
  obtain ⟨earlier, last, listed⟩ := List.eq_nil_or_concat (seriesOf families parent parentId metric)
    |>.resolve_left (List.ne_nil_of_mem shared)
  rw [found, Option.bind_some, listed, List.concat_eq_append, storedOf?_concat] at there
  obtain ⟨raw, there, _⟩ := Option.bind_eq_some_iff.1 there
  exact ⟨raw, there⟩

end SpecTable

/-- Both ways to inherit read this parent, and nothing else, from the snapshot. -/
structure InheritsFrom (groups : RawGroups) (parent group id parentId : String)
    (raw : RawMetrics) : Prop where
  there : groups.entity? parent parentId = some raw
  all : ∀ metric, Fetcher.inheritAll parent metric group id groups =
    raw.first metric >>= Fetcher.allLabels
  chosen : ∀ metric names, Fetcher.inheritSome parent metric names group id groups =
    raw.first metric >>= Fetcher.chosenLabels metric names

structure Orphaned (groups : RawGroups) (parent group id : String) : Prop where
  all : ∀ metric, Fetcher.inheritAll parent metric group id groups =
    .error (.parentNotFound parent group id)
  chosen : ∀ metric names, Fetcher.inheritSome parent metric names group id groups =
    .error (.parentNotFound parent group id)

theorem Orphaned.of_parentId {groups : RawGroups} {parent group id : String}
    (h : Fetcher.parentId parent group id groups = .error (.parentNotFound parent group id)) :
    Orphaned groups parent group id where
  all metric := by
    rw [Fetcher.inheritAll_eq, Fetcher.parentSeries, h]
    rfl
  chosen metric names := by
    rw [Fetcher.inheritSome_eq, Fetcher.parentSeries, h]
    rfl

theorem InheritsFrom.of_parentId {groups : RawGroups} {parent group id parentId : String}
    {raw : RawMetrics} (points : Fetcher.parentId parent group id groups = .ok parentId)
    (there : groups.entity? parent parentId = some raw) :
    InheritsFrom groups parent group id parentId raw where
  there := there
  all metric := by rw [Fetcher.inheritAll_eq, Fetcher.parentSeries_of_parentId points there]
  chosen metric names := by
    rw [Fetcher.inheritSome_eq, Fetcher.parentSeries_of_parentId points there]

section
variable {groups : RawGroups} {parent group id parentId metric : String} {raw : RawMetrics}
  {cause : ResolveError} (reads : InheritsFrom groups parent group id parentId raw)
include reads

theorem InheritsFrom.all_eq_error
    (h : Fetcher.inheritAll parent metric group id groups = .error cause) :
    cause = .metricNotFound metric := by
  rw [reads.all] at h
  rcases Except.bind_eq_error h with h | ⟨s, _, h⟩
  · exact RawMetrics.first_eq_error h
  · cases h

theorem InheritsFrom.chosen_eq_error {names : SortedMap String}
    (h : Fetcher.inheritSome parent metric names group id groups = .error cause) :
    cause = .metricNotFound metric ∨ ∃ label ∈ names.values, cause = .labelNotFound metric label := by
  rw [reads.chosen] at h
  rcases Except.bind_eq_error h with h | ⟨s, _, h⟩
  · exact .inl (RawMetrics.first_eq_error h)
  · exact .inr (Fetcher.chosenLabels_eq_error h)

end

namespace SpecTable
variable {table : SpecTable} {families : List Family} {parent group id : String}
  {child : RawMetrics}

/-- An entity of a grouped snapshot points to no parent at all, or the parent is there: an entity
that some series of its own was grouped into. In its own group that is the entity itself. -/
theorem orphaned_or_inherits (declared : (table.find? parent).isSome = true)
    (other : parent ≠ containerLabel)
    (present : (table.group families).groups.entity? group id = some child) :
    let groups := (table.group families).groups
    (Orphaned groups parent group id ∧
        ∀ s ∈ child.series, Fetcher.parentIdOf? parent s = none) ∨
      ∃ parentId raw, InheritsFrom groups parent group id parentId raw ∧
        groups.Overlap families group id parent parentId ∧
        (parent = group → parentId = id ∧ raw = child) := by
  intro groups
  have asked := Fetcher.parentId_of_entity? present parent
  cases found : child.series.findSome? (Fetcher.parentIdOf? parent) with
  | none =>
    rw [found] at asked
    exact .inl ⟨.of_parentId asked, List.findSome?_eq_none_iff.1 found⟩
  | some parentId =>
    rw [found] at asked
    obtain ⟨s, inside, points⟩ := List.exists_of_findSome?_eq_some found
    obtain ⟨⟨raw, there⟩, overlap⟩ := parent_of_mem_series declared other present inside points
    refine .inr ⟨parentId, raw, .of_parentId asked there, overlap, ?_⟩
    rintro rfl
    -- the series was grouped here under its own raw ID, and that is where it points
    have mine := (RawGroups.holds_group ⟨child, present, inside⟩).1
    have same : parentId = id :=
      Option.some.inj ((Fetcher.rawEntityId?_of_parentIdOf? other points).symm.trans mine)
    subst same
    exact ⟨rfl, Option.some.inj (there.symm.trans present)⟩

/-- Inheriting in a grouped snapshot fails only where no series of the entity points to a parent or
where the parent lacks the metric or a label: wherever the entity points, a parent is there that one
of its own series was grouped into, and in its own group the parent is the entity itself. -/
theorem inherit_group (declared : (table.find? parent).isSome = true)
    (other : parent ≠ containerLabel)
    (present : (table.group families).groups.entity? group id = some child) :
    let groups := (table.group families).groups
    (∀ metric cause, Fetcher.inheritAll parent metric group id groups = .error cause →
      cause = .parentNotFound parent group id ∨ cause = .metricNotFound metric) ∧
    (∀ metric names cause,
      Fetcher.inheritSome parent metric names group id groups = .error cause →
        cause = .parentNotFound parent group id ∨ cause = .metricNotFound metric ∨
          ∃ label ∈ names.values, cause = .labelNotFound metric label) ∧
    ((Orphaned groups parent group id ∧
        ∀ s ∈ child.series, Fetcher.parentIdOf? parent s = none) ∨
      ∃ parentId raw, InheritsFrom groups parent group id parentId raw ∧
        groups.Overlap families group id parent parentId ∧
        (parent = group → parentId = id ∧ raw = child)) := by
  intro groups
  have known := orphaned_or_inherits declared other present
  refine ⟨fun metric cause failed => ?_, fun metric names cause failed => ?_, known⟩
  · rcases known with ⟨orphaned, _⟩ | ⟨parentId, raw, reads, _⟩
    · exact .inl (Except.error.inj (failed.symm.trans (orphaned.all metric)))
    · exact .inr (reads.all_eq_error failed)
  · rcases known with ⟨orphaned, _⟩ | ⟨parentId, raw, reads, _⟩
    · exact .inl (Except.error.inj (failed.symm.trans (orphaned.chosen metric names)))
    · exact .inr (reads.chosen_eq_error failed)

theorem inherit_group_container :
    let object : SpecGroup := { specs := [], type := .fromLabels "kube_pod_info" }
    let table : SpecTable := .ofList [("container", object), ("pod", object)]
    let series : Series :=
      ⟨.ofList [("container", "nginx"), ("namespace", "web"), ("pod", "front")], .gauge (.ofInt 1)⟩
    let families : List Family := [⟨"kube_pod_container_info", .gauge, [series]⟩]
    let groups := (table.group families).groups
    let child : RawMetrics := .singleton "kube_pod_container_info" (.single series)
    (table.find? "pod").isSome = true ∧ "pod" ≠ containerLabel ∧
      groups.entity? "container" "web_front_nginx" = some child ∧
      ∃ parentId raw, InheritsFrom groups "pod" "container" "web_front_nginx" parentId raw ∧
        groups.Overlap families "container" "web_front_nginx" "pod" parentId := by
  intro object table series families groups child
  have declared : (table.find? "pod").isSome = true := by decide +kernel
  have present : groups.entity? "container" "web_front_nginx" = some child := by decide +kernel
  have points : Fetcher.parentIdOf? "pod" series = some "web_front" := by decide +kernel
  refine ⟨declared, by decide, present, ?_⟩
  rcases (inherit_group declared (by decide) present).2.2 with ⟨_, nowhere⟩ | found
  · exact absurd (points.symm.trans (nowhere series (by decide +kernel))) (by simp)
  · obtain ⟨parentId, raw, reads, overlap, _⟩ := found
    exact ⟨parentId, raw, reads, overlap⟩

end SpecTable
end KubeEntities
