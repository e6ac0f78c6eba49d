import KubeEntities.Proofs.SortedMap
import KubeEntities.Query
import KubeEntities.Spec

/-! Which series make up which raw entity. A raw entity is folded from the series of its raw ID
alone, in their order (`find?_groupEntities`), so leaving out series of other entities does not
change it. Selecting by queries commutes with leaving out series (`namedSeries_select_keeping`). -/

namespace KubeEntities

theorem filter_flatMap_of_imp {α β : Type} {l : List α} {f : α → List β} {p : β → Bool}
    {q : α → Bool} (h : ∀ a ∈ l, ∀ b ∈ f a, p b = true → q a = true) :
    (l.flatMap f).filter p = ((l.filter q).flatMap f).filter p := by
  induction l with
  | nil => rfl
  | cons a l ih =>
    have rest := ih fun a ha => h a (List.mem_cons_of_mem _ ha)
    rw [List.flatMap_cons, List.filter_append, rest, List.filter_cons]
    cases chosen : q a with
    | true => simp
    | false =>
      have none_kept : (f a).filter p = [] := List.filter_eq_nil_iff.2 fun b hb kept =>
        absurd (h a List.mem_cons_self b hb kept) (by simp [chosen])
      simp [none_kept]

def namedSeries (families : List Family) : List NamedSeries := families.flatMap Family.namedSeries

def Family.keeping (keep : Series → Bool) (f : Family) : Family :=
  { f with series := f.series.filter keep }

theorem Family.namedSeries_keeping (keep : Series → Bool) (f : Family) :
    (f.keeping keep).namedSeries = f.namedSeries.filter (keep ·.series) := by
  simp only [namedSeries, keeping, List.filter_map]
  rfl

namespace Query

def picks (q : Query) (f : Family) : List NamedSeries :=
  if f.name = q.metric ∧ (q.customName.getD f.name).isEmpty = false then
    (f.series.filter q.keeps).map fun s => ⟨q.customName.getD f.name, s⟩
  else []

theorem picks_keeping (q : Query) (keep : Series → Bool) (f : Family) :
    q.picks (f.keeping keep) = (q.picks f).filter (keep ·.series) := by
  have name : (f.keeping keep).name = f.name := rfl
  have series : (f.keeping keep).series = f.series.filter keep := rfl
  unfold picks
  rw [name, series]
  split
  · rw [List.filter_map, List.filter_filter, List.filter_filter]
    congr 1
    exact List.filter_congr fun s _ => Bool.and_comm _ _
  · rfl

theorem namedSeries_run (q : Query) (f : Family) :
    (((q.run f).toList).filter Family.isValid).flatMap Family.namedSeries = q.picks f := by
  unfold run picks
  by_cases named : f.name = q.metric
  · rw [if_pos named]
    simp only [and_iff_right named]
    cases f.series.filter q.keeps with
    | nil => simp
    | cons s rest =>
      cases blank : (q.customName.getD f.name).isEmpty <;>
        simp [blank, Family.isValid, Family.namedSeries]
  · simp [named]

end Query

theorem namedSeries_select (queries : List Query) (families : List Family) :
    namedSeries (select queries families) =
      if queries.isEmpty then namedSeries families
      else queries.flatMap fun q => families.flatMap q.picks := by
  unfold select
  split
  · rfl
  · simp only [namedSeries, List.flatMap_assoc]
    congr 1
    funext q
    induction families with
    | nil => rfl
    | cons f families ih =>
      rw [List.flatMap_cons, ← ih, ← q.namedSeries_run f]
      cases found : q.run f with
      | none => simp [found]
      | some g => cases valid : g.isValid <;> simp [found, valid]

theorem namedSeries_select_keeping (queries : List Query) (keep : Series → Bool)
    (families : List Family) :
    namedSeries (select queries (families.map (Family.keeping keep))) =
      (namedSeries (select queries families)).filter (keep ·.series) := by
  simp only [namedSeries_select]
  split
  · simp only [namedSeries, List.flatMap_map, List.filter_flatMap, Family.namedSeries_keeping]
  · simp only [List.flatMap_map, List.filter_flatMap, Query.picks_keeping]

def NamedSeries.isOf (group id : String) (s : NamedSeries) : Bool :=
  rawEntityId? group s.series == some id

def rawOf? (sliceMetric : Option String) (mine : List NamedSeries) : Option RawMetrics :=
  if mine.isEmpty then none else some (mine.foldl (RawMetrics.add sliceMetric) ∅)

theorem find?_foldl_addToEntities (group : String) (sliceMetric : Option String)
    (l : List NamedSeries) (m : SortedMap RawMetrics) (id : String) :
    (l.foldl (addToEntities group sliceMetric) m).find? id =
      if (l.filter (·.isOf group id)).isEmpty then m.find? id
      else some ((l.filter (·.isOf group id)).foldl (RawMetrics.add sliceMetric)
        ((m.find? id).getD ∅)) := by
  induction l generalizing m with
  | nil => rfl
  | cons s l ih =>
    rw [List.foldl_cons, ih, List.filter_cons]
    cases found : rawEntityId? group s.series with
    | none =>
      have apart : s.isOf group id = false := by simp [NamedSeries.isOf, found]
      simp [addToEntities, found, apart]
    | some other =>
      by_cases same : id = other
      · subst same
        have mine : s.isOf group id = true := by simp [NamedSeries.isOf, found]
        cases l.filter (·.isOf group id) <;>
          simp [addToEntities, found, mine, SortedMap.find?_upsert]
      · have apart : s.isOf group id = false := by simp [NamedSeries.isOf, found, Ne.symm same]
        simp [addToEntities, found, apart, same, SortedMap.find?_upsert]

theorem find?_groupEntities (group : String) (sliceMetric : Option String)
    (families : List Family) (id : String) :
    (groupEntities group sliceMetric families).find? id =
      rawOf? sliceMetric ((namedSeries families).filter (·.isOf group id)) :=
  find?_foldl_addToEntities group sliceMetric (namedSeries families) ∅ id

theorem entity?_group (table : SpecTable) (families : List Family) (group id : String) :
    (table.group families).groups.entity? group id =
      (table.find? group).bind fun g =>
        rawOf? (g.sliceMetric group) ((namedSeries families).filter (·.isOf group id)) := by
  simp only [SpecTable.group, groupFamilies, SpecTable.sliceMetrics, RawGroups.entity?,
    SortedMap.find?_filter, SortedMap.find?_map]
  cases table.find? group with
  | none => rfl
  | some g =>
    simp only [Option.map_some, Option.bind_some, ← find?_groupEntities]
    cases vacant : (groupEntities group (g.sliceMetric group) families).isEmpty with
    | false => simp [Option.filter, vacant]
    | true => simp [Option.filter, SortedMap.isEmpty_iff.1 vacant, SortedMap.isEmpty]

namespace RawMetrics

theorem mem_series_iff {raw : RawMetrics} {s : Series} :
    s ∈ raw.series ↔ ∃ key value, raw.find? key = some value ∧ s ∈ value.series := by
  simp only [series, List.mem_flatMap, SortedMap.mem_values_iff]
  constructor
  · rintro ⟨value, ⟨key, found⟩, inside⟩
    exact ⟨key, value, found, inside⟩
  · rintro ⟨key, value, found, inside⟩
    exact ⟨value, ⟨key, found⟩, inside⟩

theorem mem_series_add {sliceMetric : Option String} {raw : RawMetrics} {x : NamedSeries}
    {s : Series} (h : s ∈ (raw.add sliceMetric x).series) : s ∈ raw.series ∨ s = x.series := by
  obtain ⟨key, value, found, inside⟩ := mem_series_iff.1 h
  unfold add at found
  split at found
  · rw [SortedMap.find?_upsert] at found
    split at found
    · rename_i same
      subst same
      cases there : raw.find? x.metric with
      | none =>
        rw [there] at found
        cases found
        exact .inr (List.mem_singleton.1 inside)
      | some old =>
        rw [there] at found
        cases old with
        | single t =>
          cases found
          exact .inr (List.mem_singleton.1 inside)
        | slice before =>
          cases found
          rcases List.mem_append.1 inside with inside | inside
          · exact .inl (mem_series_iff.2 ⟨x.metric, .slice before, there, inside⟩)
          · exact .inr (List.mem_singleton.1 inside)
    · exact .inl (mem_series_iff.2 ⟨key, value, found, inside⟩)
  · rw [SortedMap.find?_insert] at found
    split at found
    · cases found
      exact .inr (List.mem_singleton.1 inside)
    · exact .inl (mem_series_iff.2 ⟨key, value, found, inside⟩)

theorem mem_series_foldl_add {sliceMetric : Option String} {l : List NamedSeries}
    {raw : RawMetrics} {s : Series} (h : s ∈ (l.foldl (RawMetrics.add sliceMetric) raw).series) :
    s ∈ raw.series ∨ ∃ x ∈ l, x.series = s := by
  induction l generalizing raw with
  | nil => exact .inl h
  | cons x l ih =>
    rcases ih h with h | ⟨y, hy, same⟩
    · rcases mem_series_add h with h | rfl
      · exact .inl h
      · exact .inr ⟨x, List.mem_cons_self, rfl⟩
    · exact .inr ⟨y, List.mem_cons_of_mem _ hy, same⟩

theorem mem_series_add_self (sliceMetric : Option String) (raw : RawMetrics) (x : NamedSeries) :
    x.series ∈ (raw.add sliceMetric x).series := by
  unfold add
  split
  · cases there : raw.find? x.metric with
    | none =>
      exact mem_series_iff.2 ⟨x.metric, .slice [x.series], by
        simp [SortedMap.find?_upsert, there], List.mem_singleton_self _⟩
    | some old =>
      cases old with
      | single t =>
        exact mem_series_iff.2 ⟨x.metric, .slice [x.series], by
          simp [SortedMap.find?_upsert, there], List.mem_singleton_self _⟩
      | slice before =>
        exact mem_series_iff.2 ⟨x.metric, .slice (before ++ [x.series]), by
          simp [SortedMap.find?_upsert, there], List.mem_append_right _ List.mem_cons_self⟩
  · exact mem_series_iff.2 ⟨x.metric, .single x.series, by
      simp [SortedMap.find?_insert], List.mem_singleton_self _⟩

end RawMetrics

theorem mem_series_of_rawOf? {sliceMetric : Option String} {mine : List NamedSeries}
    {raw : RawMetrics} (h : rawOf? sliceMetric mine = some raw) {s : Series} (hs : s ∈ raw.series) :
    ∃ x ∈ mine, x.series = s := by
  unfold rawOf? at h
  split at h
  · cases h
  · cases h
    rcases RawMetrics.mem_series_foldl_add hs with hs | found
    · obtain ⟨key, value, found, _⟩ := RawMetrics.mem_series_iff.1 hs
      simp at found
    · exact found

theorem exists_mem_series_of_rawOf? {sliceMetric : Option String} {mine : List NamedSeries}
    {raw : RawMetrics} (h : rawOf? sliceMetric mine = some raw) : ∃ s, s ∈ raw.series := by
  unfold rawOf? at h
  split at h
  · cases h
  · rename_i filled
    have filled : mine ≠ [] := by simpa using filled
    -- the series added last is there, whatever was added before it
    have last := List.dropLast_concat_getLast filled
    cases h
    rw [← last, List.foldl_append]
    exact ⟨_, RawMetrics.mem_series_add_self _ _ (mine.getLast filled)⟩

def RawGroups.Holds (groups : RawGroups) (group id : String) (s : Series) : Prop :=
  ∃ raw, groups.entity? group id = some raw ∧ s ∈ raw.series

theorem RawGroups.holds_group {table : SpecTable} {families : List Family} {group id : String}
    {s : Series} (h : (table.group families).groups.Holds group id s) :
    rawEntityId? group s = some id ∧ ∃ x ∈ namedSeries families, x.series = s := by
  obtain ⟨raw, there, inside⟩ := h
  rw [entity?_group] at there
  obtain ⟨g, _, there⟩ := Option.bind_eq_some_iff.1 there
  obtain ⟨x, hx, rfl⟩ := mem_series_of_rawOf? there inside
  obtain ⟨hx, mine⟩ := List.mem_filter.1 hx
  exact ⟨by simpa [NamedSeries.isOf] using mine, x, hx, rfl⟩

theorem RawGroups.exists_holds {table : SpecTable} {families : List Family} {group id : String}
    {raw : RawMetrics} (h : (table.group families).groups.entity? group id = some raw) :
    ∃ s, (table.group families).groups.Holds group id s := by
  have found := h
  rw [entity?_group] at found
  obtain ⟨g, _, found⟩ := Option.bind_eq_some_iff.1 found
  obtain ⟨s, inside⟩ := exists_mem_series_of_rawOf? found
  exact ⟨s, raw, h, inside⟩

theorem exists_family_of_mem_select {queries : List Query} {families : List Family}
    {x : NamedSeries} (h : x ∈ namedSeries (select queries families)) :
    ∃ f ∈ families, x.series ∈ f.series := by
  rw [namedSeries_select] at h
  split at h
  · obtain ⟨f, hf, hx⟩ := List.mem_flatMap.1 h
    obtain ⟨s, hs, rfl⟩ := List.mem_map.1 hx
    exact ⟨f, hf, hs⟩
  · obtain ⟨q, _, h⟩ := List.mem_flatMap.1 h
    obtain ⟨f, hf, hx⟩ := List.mem_flatMap.1 h
    unfold Query.picks at hx
    split at hx
    · obtain ⟨s, hs, rfl⟩ := List.mem_map.1 hx
      exact ⟨f, hf, (List.mem_filter.1 hs).1⟩
    · exact absurd hx List.not_mem_nil

end KubeEntities
