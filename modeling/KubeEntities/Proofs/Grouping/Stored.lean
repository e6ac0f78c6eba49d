import KubeEntities.Proofs.Grouping

/-! What grouping stores. Of each metric a raw entity holds what a filter and a choice of the last
series give (`seriesOf`, `storedOf?`). The fold that builds an entity keeps this for the series that
it has taken in so far (`find?_add`, `find?_foldl_add`), and nothing else is stored
(`group_stores`). -/

namespace KubeEntities

/-- The series of one metric that belong to a raw entity: families in their order, and the series
of each in theirs. -/
def seriesOf (families : List Family) (group id metric : String) : List Series :=
  (families.filter (·.name == metric)).flatMap fun f =>
    f.series.filter fun s => rawEntityId? group s == some id

/-- Of the sliceable metric every series is stored, of any other the last one. -/
def storedOf? (sliceMetric : Option String) (metric : String) (mine : List Series) :
    Option RawValue :=
  mine.getLast?.map fun last => if sliceMetric = some metric then .slice mine else .single last

@[simp] theorem storedOf?_nil (sliceMetric : Option String) (metric : String) :
    storedOf? sliceMetric metric [] = none := rfl

@[simp] theorem storedOf?_concat (sliceMetric : Option String) (metric : String)
    (before : List Series) (s : Series) :
    storedOf? sliceMetric metric (before ++ [s]) =
      some (if sliceMetric = some metric then .slice (before ++ [s]) else .single s) := by
  simp [storedOf?]

theorem slice_storedOf? (metric : String) (mine : List Series) :
    ((storedOf? (some metric) metric mine).bind RawValue.slice?).getD [] = mine := by
  rcases List.eq_nil_or_concat mine with rfl | ⟨before, last, rfl⟩
  · rfl
  · simp [RawValue.slice?]

def seriesNamed (metric : String) (l : List NamedSeries) : List Series :=
  (l.filter (·.metric == metric)).map (·.series)

theorem seriesNamed_append (metric : String) (l l' : List NamedSeries) :
    seriesNamed metric (l ++ l') = seriesNamed metric l ++ seriesNamed metric l' := by
  simp [seriesNamed]

theorem seriesNamed_singleton (metric : String) (x : NamedSeries) :
    seriesNamed metric [x] = if x.metric = metric then [x.series] else [] := by
  by_cases named : x.metric = metric <;> simp [seriesNamed, named]

theorem seriesNamed_filter_isOf (metric group id : String) (families : List Family) :
    seriesNamed metric ((namedSeries families).filter (·.isOf group id)) =
      seriesOf families group id metric := by
  induction families with
  | nil => rfl
  | cons f families ih =>
    have first : seriesNamed metric (f.namedSeries.filter (·.isOf group id)) =
        if f.name == metric then f.series.filter (fun s => rawEntityId? group s == some id)
        else [] := by
      cases named : f.name == metric <;>
        simp [seriesNamed, Family.namedSeries, List.filter_map, Function.comp_def, named,
          NamedSeries.isOf]
    simp only [namedSeries, seriesOf, List.flatMap_cons, List.filter_append, seriesNamed_append,
      List.filter_cons] at ih ⊢
    rw [first, ih]
    split <;> rfl

def Query.output (q : Query) : String := q.customName.getD q.metric

theorem Query.output_of_mem_picks {q : Query} {f : Family} {x : NamedSeries} (h : x ∈ q.picks f) :
    x.metric = q.output := by
  unfold picks at h
  split at h
  · rename_i named
    obtain ⟨s, _, rfl⟩ := List.mem_map.1 h
    rw [Query.output, named.1]
  · exact absurd h List.not_mem_nil

theorem Query.filter_picks {q : Query} (named : q.metric ≠ "") (unnamed : q.customName = none)
    (f : Family) :
    (q.picks f).filter (·.metric == q.metric) =
      (f.namedSeries.filter (·.metric == q.metric)).filter (q.keeps ·.series) := by
  by_cases same : f.name = q.metric
  · have filled : q.metric.isEmpty = false := by simpa using named
    simp [picks, Family.namedSeries, same, unnamed, filled, List.filter_map, Function.comp_def]
  · simp [picks, Family.namedSeries, same, List.filter_map, Function.comp_def]

theorem seriesOf_select_kept {queries : List Query} {q : Query} (named : q.metric ≠ "")
    (unnamed : q.customName = none) (once : queries.filter (·.output == q.metric) = [q])
    (families : List Family) (group id : String) :
    seriesOf (select queries families) group id q.metric =
      (seriesOf families group id q.metric).filter q.keeps := by
  have queried : queries.isEmpty = false := by
    cases queries with
    | nil => cases once
    | cons q queries => rfl
  have selected : (namedSeries (select queries families)).filter (·.metric == q.metric) =
      ((namedSeries families).filter (·.metric == q.metric)).filter (q.keeps ·.series) := by
    rw [namedSeries_select, queried, if_neg (by simp),
      filter_flatMap_of_imp (q := fun q' : Query => q'.output == q.metric), once]
    · simp only [List.flatMap_cons, List.flatMap_nil, List.append_nil, List.filter_flatMap,
        Query.filter_picks named unnamed, namedSeries]
    · intro q' _ x hx chosen
      obtain ⟨f, _, hx⟩ := List.mem_flatMap.1 hx
      rw [← Query.output_of_mem_picks hx]
      exact chosen
  have commute (l : List NamedSeries) : seriesNamed q.metric (l.filter (·.isOf group id)) =
      ((l.filter (·.metric == q.metric)).filter (·.isOf group id)).map (·.series) := by
    rw [seriesNamed, List.filter_filter, List.filter_filter]
    simp only [Bool.and_comm]
  have kept (l : List NamedSeries) : ((l.filter (q.keeps ·.series)).filter (·.isOf group id)).map
      (·.series) = ((l.filter (·.isOf group id)).map (·.series)).filter q.keeps := by
    simp only [List.filter_map, List.filter_filter, Function.comp_def, Bool.and_comm]
  rw [← seriesNamed_filter_isOf, ← seriesNamed_filter_isOf, commute, commute, selected, kept]

theorem seriesOf_select {queries : List Query} {metric : String} (named : metric ≠ "")
    (once : queries.filter (·.output == metric) = [.all metric]) (families : List Family)
    (group id : String) :
    seriesOf (select queries families) group id metric = seriesOf families group id metric := by
  have kept := seriesOf_select_kept (q := .all metric) named rfl once families group id
  exact kept.trans (List.filter_eq_self.2 fun _ _ => rfl)

namespace RawMetrics

theorem find?_add {sliceMetric : Option String} {raw : RawMetrics} {metric : String}
    {before : List Series} (h : raw.find? metric = storedOf? sliceMetric metric before)
    (x : NamedSeries) :
    (raw.add sliceMetric x).find? metric =
      storedOf? sliceMetric metric (before ++ seriesNamed metric [x]) := by
  rw [seriesNamed_singleton]
  by_cases named : x.metric = metric
  · subst named
    rw [if_pos rfl, storedOf?_concat, add]
    by_cases sliced : sliceMetric = some x.metric
    · rw [if_pos sliced, if_pos sliced, SortedMap.find?_upsert, if_pos rfl, h]
      -- what was there is a slice, for nothing else is stored under the sliceable metric
      cases List.eq_nil_or_concat before with
      | inl none_yet => simp [none_yet]
      | inr some_yet =>
        obtain ⟨earlier, last, rfl⟩ := some_yet
        simp [sliced]
    · rw [if_neg sliced, if_neg sliced, SortedMap.find?_insert, if_pos rfl]
  · rw [if_neg named, List.append_nil, ← h, add]
    split
    · rw [SortedMap.find?_upsert, if_neg (Ne.symm named)]
    · rw [SortedMap.find?_insert, if_neg (Ne.symm named)]

theorem find?_foldl_add {sliceMetric : Option String} {raw : RawMetrics} {metric : String}
    {before : List Series} (h : raw.find? metric = storedOf? sliceMetric metric before)
    (l : List NamedSeries) :
    (l.foldl (RawMetrics.add sliceMetric) raw).find? metric =
      storedOf? sliceMetric metric (before ++ seriesNamed metric l) := by
  induction l generalizing raw before with
  | nil => simpa [seriesNamed] using h
  | cons x l ih =>
    rw [List.foldl_cons, ih (find?_add h x), List.append_assoc, ← seriesNamed_append]
    rfl

theorem find?_foldl_add_empty (sliceMetric : Option String) (l : List NamedSeries)
    (metric : String) :
    (l.foldl (RawMetrics.add sliceMetric) ∅).find? metric =
      storedOf? sliceMetric metric (seriesNamed metric l) := by
  have nothing : (∅ : RawMetrics).find? metric = storedOf? sliceMetric metric [] := rfl
  exact find?_foldl_add nothing l

end RawMetrics

theorem find?_rawOf? (sliceMetric : Option String) (mine : List NamedSeries) (metric : String) :
    (rawOf? sliceMetric mine).bind (·.find? metric) =
      storedOf? sliceMetric metric (seriesNamed metric mine) := by
  unfold rawOf?
  split
  · rename_i vacant
    rw [List.isEmpty_iff.1 vacant]
    rfl
  · exact RawMetrics.find?_foldl_add_empty sliceMetric mine metric

theorem rawOf?_ne_empty (sliceMetric : Option String) (mine : List NamedSeries) :
    rawOf? sliceMetric mine ≠ some ∅ := by
  intro h
  obtain ⟨s, inside⟩ := exists_mem_series_of_rawOf? h
  exact absurd inside List.not_mem_nil

namespace SpecTable

theorem find?_group (table : SpecTable) (families : List Family) (group : String) :
    (table.group families).groups.find? group =
      ((table.find? group).map fun spec =>
        groupEntities group (spec.sliceMetric group) families).filter (!·.isEmpty) := by
  simp only [SpecTable.group, groupFamilies, sliceMetrics, SortedMap.find?_filter,
    SortedMap.find?_map, Option.map_map]
  rfl

theorem errors_group (table : SpecTable) (families : List Family) :
    (table.group families).errors =
      (table.keys.filter fun group => !(table.group families).groups.contains group).map
        .noData := by
  have reported : (table.group families).errors =
      (((table.sliceMetrics.map fun group sliceMetric =>
        groupEntities group sliceMetric families).filter fun _ entities =>
          entities.isEmpty).keys.map .noData) := rfl
  rw [reported, SortedMap.keys_filter, SortedMap.keys_map, sliceMetrics, SortedMap.keys_map]
  refine congrArg _ (List.filter_congr ?_)
  intro label declared
  obtain ⟨⟨label, spec⟩, listed, rfl⟩ := List.mem_map.1 declared
  have found := SortedMap.find?_eq_some_iff.2 listed
  cases vacant : (groupEntities label (spec.sliceMetric label) families).isEmpty <;>
    simp [SortedMap.contains, find?_group, SortedMap.find?_map, found, vacant]

theorem stored_group (table : SpecTable) (families : List Family) (group id metric : String) :
    ((table.group families).groups.entity? group id).bind (·.find? metric) =
      (table.find? group).bind fun spec =>
        storedOf? (spec.sliceMetric group) metric (seriesOf families group id metric) := by
  rw [entity?_group, Option.bind_assoc]
  simp only [find?_rawOf?, seriesNamed_filter_isOf]

/-- Grouping stores of every metric of every raw entity of every declared group exactly the series
that belong there, no group and no entity is empty, and the groups left out are reported in
order. -/
theorem group_stores (table : SpecTable) (families : List Family) :
    let grouped := table.group families
    (∀ group id metric, (grouped.groups.entity? group id).bind (·.find? metric) =
      (table.find? group).bind fun spec =>
        storedOf? (spec.sliceMetric group) metric (seriesOf families group id metric)) ∧
    (∀ group, grouped.groups.find? group ≠ some ∅) ∧
    (∀ group id, grouped.groups.entity? group id ≠ some ∅) ∧
    grouped.errors =
      (table.keys.filter fun group => !grouped.groups.contains group).map .noData := by
  intro grouped
  refine ⟨table.stored_group families, fun group => ?_, fun group id => ?_, ?_⟩
  · intro vacant
    rw [find?_group, Option.filter_eq_some_iff] at vacant
    exact absurd vacant.2 (by decide)
  · rw [entity?_group]
    intro vacant
    obtain ⟨spec, _, vacant⟩ := Option.bind_eq_some_iff.1 vacant
    exact rawOf?_ne_empty _ _ vacant
  · exact table.errors_group families

end SpecTable
end KubeEntities
