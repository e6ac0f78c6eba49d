import KubeEntities.Proofs.Grouping.Stored
import KubeEntities.Proofs.Split

/-! Forgetting the kinds of scraped numbers. The neutral form of a value, of a series and of
everything that holds series calls every number a gauge. Two values have one neutral form if they
carry the same number (`Value.neutral_eq_iff`). Queries, grouping and splitting read labels and
texts of numbers, so they commute with it (`select_neutral`, `groups_neutral`, `split_neutral`). -/

namespace KubeEntities

namespace Value

def neutral (v : Value) : Value := v.number?.elim .absent .gauge

@[simp] theorem number?_neutral (v : Value) : v.neutral.number? = v.number? := by cases v <;> rfl

@[simp] theorem isAbsent_neutral (v : Value) : v.neutral.isAbsent = v.isAbsent := by cases v <;> rfl

@[simp] theorem text_neutral (v : Value) : v.neutral.text = v.text := by simp [text]

theorem neutral_eq_iff {v w : Value} : v.neutral = w.neutral ↔ v.number? = w.number? := by
  constructor
  · intro h
    rw [← v.number?_neutral, h, w.number?_neutral]
  · intro h
    rw [neutral, neutral, h]

end Value

namespace Series

def neutral (s : Series) : Series := { s with value := s.value.neutral }

@[simp] theorem value_neutral (s : Series) : s.neutral.value = s.value.neutral := rfl

@[simp] theorem label?_neutral (s : Series) (name : String) :
    s.neutral.label? name = s.label? name := rfl

end Series

def Family.neutral (f : Family) : Family := ⟨f.name, .gauge, f.series.map Series.neutral⟩

@[simp] theorem Family.name_neutral (f : Family) : f.neutral.name = f.name := rfl

@[simp] theorem Family.series_neutral (f : Family) :
    f.neutral.series = f.series.map Series.neutral := rfl

@[simp] theorem Family.isValid_neutral (f : Family) : f.neutral.isValid = f.isValid := by
  simp [isValid]

namespace RawValue

def neutral : RawValue → RawValue
  | single s => single s.neutral
  | slice series => slice (series.map Series.neutral)

@[simp] theorem series_neutral (raw : RawValue) :
    raw.neutral.series = raw.series.map Series.neutral := by cases raw <;> rfl

end RawValue

def RawMetrics.neutral (raw : RawMetrics) : RawMetrics := raw.map fun _ value => value.neutral

@[simp] theorem RawMetrics.find?_neutral (raw : RawMetrics) (metric : String) :
    raw.neutral.find? metric = (raw.find? metric).map RawValue.neutral :=
  SortedMap.find?_map ..

@[simp] theorem RawMetrics.series_neutral (raw : RawMetrics) :
    raw.neutral.series = raw.series.map Series.neutral := by
  simp [series, neutral, SortedMap.values, SortedMap.map, List.flatMap_map, List.map_flatMap]

/-- The same labels and the same number, of whatever kind. -/
structure Series.Rewrapped (s t : Series) : Prop where
  labels : s.labels = t.labels
  number : s.value.number? = t.value.number?

/-- The same series under the same name; the kinds of the family and of its numbers may differ. -/
structure Family.Rewrapped (f g : Family) : Prop where
  name : f.name = g.name
  series : List.Forall₂ Series.Rewrapped f.series g.series

theorem Series.Rewrapped.neutral {s t : Series} (h : s.Rewrapped t) : s.neutral = t.neutral := by
  rw [Series.neutral, Series.neutral, h.labels, Value.neutral_eq_iff.2 h.number]

theorem Family.Rewrapped.neutral {f g : Family} (h : f.Rewrapped g) : f.neutral = g.neutral := by
  have series : List.Forall₂ (· = ·) (f.series.map Series.neutral) (g.series.map Series.neutral) :=
    List.forall₂_map_left_iff.2 (List.forall₂_map_right_iff.2 (h.series.imp fun _ _ h => h.neutral))
  rw [List.forall₂_eq_eq_eq] at series
  rw [Family.neutral, Family.neutral, h.name, series]

def RawGroups.neutral (groups : RawGroups) : RawGroups :=
  groups.map fun _ entities => entities.map fun _ raw => raw.neutral

@[simp] theorem RawGroups.entity?_neutral (groups : RawGroups) (group id : String) :
    groups.neutral.entity? group id = (groups.entity? group id).map RawMetrics.neutral := by
  rw [entity?, neutral, SortedMap.find?_map, entity?]
  cases groups.find? group with
  | none => rfl
  | some entities => exact SortedMap.find?_map entities (fun _ raw => raw.neutral) id

theorem Query.keeps_neutral (q : Query) (s : Series) : q.keeps s.neutral = q.keeps s := by
  have labels (p : LabelPredicate) : keepsLabels p s.neutral = keepsLabels p s := rfl
  have value (p : ValuePredicate) : keepsValue p s.neutral = keepsValue p s := by simp [keepsValue]
  simp only [keeps, labels, value]

theorem Query.run_neutral (q : Query) (f : Family) :
    q.run f.neutral = (q.run f).map Family.neutral := by
  have kept : f.neutral.series.filter q.keeps = (f.series.filter q.keeps).map Series.neutral := by
    rw [Family.series_neutral, List.filter_map]
    congr 1
    exact List.filter_congr fun s _ => q.keeps_neutral s
  simp only [run, kept, Family.name_neutral]
  split
  · cases f.series.filter q.keeps <;> rfl
  · rfl

theorem select_neutral (queries : List Query) (families : List Family) :
    select queries (families.map Family.neutral) =
      (select queries families).map Family.neutral := by
  have ran (q : Query) : (families.map Family.neutral).filterMap q.run =
      (families.filterMap q.run).map Family.neutral := by
    rw [List.filterMap_map, List.map_filterMap]
    exact congrArg (List.filterMap · families) (funext q.run_neutral)
  have valid (results : List Family) : (results.map Family.neutral).filter Family.isValid =
      (results.filter Family.isValid).map Family.neutral := by
    rw [List.filter_map]
    exact congrArg _ (List.filter_congr fun f _ => f.isValid_neutral)
  unfold select
  split
  · rfl
  · simp only [ran, valid, List.map_flatMap]

def NamedSeries.neutral (x : NamedSeries) : NamedSeries := ⟨x.metric, x.series.neutral⟩

theorem namedSeries_neutral (families : List Family) :
    namedSeries (families.map Family.neutral) =
      (namedSeries families).map NamedSeries.neutral := by
  rw [namedSeries, namedSeries, List.flatMap_map, List.map_flatMap]
  refine List.flatMap_congr fun f _ => ?_
  simp [Family.namedSeries, NamedSeries.neutral]

theorem seriesNamed_neutral (metric : String) (l : List NamedSeries) :
    seriesNamed metric (l.map NamedSeries.neutral) =
      (seriesNamed metric l).map Series.neutral := by
  rw [seriesNamed, seriesNamed, List.filter_map, List.map_map, List.map_map]
  rfl

theorem storedOf?_neutral (sliceMetric : Option String) (metric : String) (mine : List Series) :
    storedOf? sliceMetric metric (mine.map Series.neutral) =
      (storedOf? sliceMetric metric mine).map RawValue.neutral := by
  rw [storedOf?, storedOf?, List.getLast?_map, Option.map_map, Option.map_map]
  congr 1
  funext last
  simp only [Function.comp_apply]
  split <;> rfl

theorem rawOf?_neutral (sliceMetric : Option String) (mine : List NamedSeries) :
    rawOf? sliceMetric (mine.map NamedSeries.neutral) =
      (rawOf? sliceMetric mine).map RawMetrics.neutral := by
  unfold rawOf?
  rw [List.isEmpty_map]
  split
  · rfl
  · rw [Option.map_some]
    congr 1
    refine SortedMap.ext_find? fun metric => ?_
    rw [RawMetrics.find?_neutral, RawMetrics.find?_foldl_add_empty,
      RawMetrics.find?_foldl_add_empty, seriesNamed_neutral, storedOf?_neutral]

theorem groupEntities_neutral (group : String) (sliceMetric : Option String)
    (families : List Family) :
    groupEntities group sliceMetric (families.map Family.neutral) =
      (groupEntities group sliceMetric families).map fun _ raw => raw.neutral := by
  refine SortedMap.ext_find? fun id => ?_
  rw [SortedMap.find?_map, find?_groupEntities, find?_groupEntities, namedSeries_neutral,
    List.filter_map, rawOf?_neutral]
  rfl

theorem RawGroups.contains_neutral (groups : RawGroups) (group : String) :
    groups.neutral.contains group = groups.contains group := by
  rw [SortedMap.contains, neutral, SortedMap.find?_map, Option.isSome_map, SortedMap.contains]

namespace SpecTable
variable (table : SpecTable) (families : List Family)

theorem groups_neutral :
    (table.group (families.map Family.neutral)).groups =
      (table.group families).groups.neutral := by
  refine SortedMap.ext_find? fun group => ?_
  rw [RawGroups.neutral, SortedMap.find?_map, find?_group, find?_group]
  cases table.find? group with
  | none => rfl
  | some spec =>
    rw [Option.map_some, Option.map_some, groupEntities_neutral]
    cases vacant : (groupEntities group (spec.sliceMetric group) families).isEmpty with
    | true => rw [SortedMap.isEmpty_iff.1 vacant]; rfl
    | false =>
      have filled : ((groupEntities group (spec.sliceMetric group) families).map
          fun _ raw => raw.neutral).isEmpty = false := by
        simpa [SortedMap.isEmpty, SortedMap.map] using vacant
      simp [Option.filter, vacant, filled]

theorem errors_neutral :
    (table.group (families.map Family.neutral)).errors = (table.group families).errors := by
  simp only [errors_group, groups_neutral, RawGroups.contains_neutral]

end SpecTable

theorem seriesWith_neutral (label value : String) (series : List Series) :
    seriesWith label value (series.map Series.neutral) =
      (seriesWith label value series).map Series.neutral := by
  rw [seriesWith, seriesWith, List.filter_map]
  rfl

theorem partitionByLabel_neutral (label : String) (series : List Series) :
    partitionByLabel label (series.map Series.neutral) =
      (partitionByLabel label series).map fun _ part => part.map Series.neutral := by
  refine SortedMap.ext_find? fun value => ?_
  rw [SortedMap.find?_map, find?_partitionByLabel, find?_partitionByLabel, seriesWith_neutral]
  cases seriesWith label value series <;> rfl

theorem RawMetrics.insert_neutral (raw : RawMetrics) (metric : String) (value : RawValue) :
    raw.neutral.insert metric value.neutral = neutral (raw.insert metric value) := by
  refine SortedMap.ext_find? fun other => ?_
  rw [SortedMap.find?_insert, find?_neutral, find?_neutral, SortedMap.find?_insert]
  split <;> rfl

theorem RawMetrics.split_neutral (raw : RawMetrics) (sliceMetric label : String) :
    raw.neutral.split sliceMetric label =
      (raw.split sliceMetric label).map fun parts => parts.map fun _ part => part.neutral := by
  unfold split
  rw [find?_neutral]
  cases raw.find? sliceMetric with
  | none => rfl
  | some stored =>
    cases stored with
    | single s => rfl
    | slice series =>
      change Except.ok _ = Except.ok _
      congr 1
      refine SortedMap.ext_find? fun value => ?_
      simp only [SortedMap.find?_map, partitionByLabel_neutral, Option.map_map]
      congr 1
      funext part
      exact raw.insert_neutral sliceMetric (.slice part)

end KubeEntities
