import KubeEntities.Proofs.SortedMap
import KubeEntities.Split
import Mathlib.Data.List.Dedup

/-! The parts of a split. A label divides series by its values: under each value stand the series
that carry it, in their order (`find?_partitionByLabel`), so there are as many parts as there are
values (`length_values_partitionByLabel`). -/

namespace KubeEntities

def labelValues (label : String) (series : List Series) : List String :=
  (series.filterMap (·.label? label)).dedup

theorem mem_labelValues {label value : String} {series : List Series} :
    value ∈ labelValues label series ↔ ∃ s ∈ series, s.label? label = some value := by
  simp [labelValues]

def seriesWith (label value : String) (series : List Series) : List Series :=
  series.filter fun s => s.label? label == some value

theorem seriesWith_cons (label value : String) (s : Series) (series : List Series) :
    seriesWith label value (s :: series) =
      (if s.label? label = some value then [s] else []) ++ seriesWith label value series := by
  by_cases carries : s.label? label = some value <;> simp [seriesWith, carries]

theorem mem_seriesWith {label value : String} {series : List Series} {s : Series} :
    s ∈ seriesWith label value series ↔ s ∈ series ∧ s.label? label = some value := by
  simp [seriesWith]

theorem seriesWith_ne_nil {label value : String} {series : List Series}
    (h : value ∈ labelValues label series) : seriesWith label value series ≠ [] := by
  obtain ⟨s, inside, labelled⟩ := mem_labelValues.1 h
  exact List.ne_nil_of_mem (mem_seriesWith.2 ⟨inside, labelled⟩)

theorem partitionByLabel_eq_foldl (label : String) (series : List Series) :
    partitionByLabel label series = series.foldl (fun parts s =>
      (s.label? label).elim parts fun value =>
        parts.upsert value fun before => before.getD [] ++ [s]) ∅ := by
  unfold partitionByLabel
  congr 1
  funext parts s
  cases s.label? label <;> rfl

theorem find?_partitionByLabel (label value : String) (series : List Series) :
    (partitionByLabel label series).find? value =
      if seriesWith label value series = [] then none
      else some (seriesWith label value series) := by
  -- the parts found so far stand before those of the series to come
  have parts (series : List Series) (m : SortedMap (List Series)) :
      (series.foldl (fun parts s => (s.label? label).elim parts fun value =>
        parts.upsert value fun before => before.getD [] ++ [s]) m).find? value =
        if seriesWith label value series = [] then m.find? value
        else some ((m.find? value).getD [] ++ seriesWith label value series) := by
    induction series generalizing m with
    | nil => rfl
    | cons s series ih =>
      rw [List.foldl_cons, ih, seriesWith_cons]
      cases carried : s.label? label with
      | none => simp
      | some other =>
        by_cases same : value = other
        · subst same
          by_cases last : seriesWith label value series = [] <;>
            simp [SortedMap.find?_upsert, last]
        · simp [SortedMap.find?_upsert, same, Ne.symm same]
  rw [partitionByLabel_eq_foldl, parts]
  simp

theorem values_partitionByLabel (label : String) (series : List Series) :
    (partitionByLabel label series).values =
      (partitionByLabel label series).keys.map fun value => seriesWith label value series := by
  simp only [SortedMap.values, SortedMap.keys, List.map_map]
  refine List.map_congr_left fun part listed => ?_
  have found := SortedMap.find?_eq_some_iff.2 listed
  rw [find?_partitionByLabel] at found
  split at found
  · cases found
  · exact (Option.some.inj found).symm

theorem mem_keys_partitionByLabel {label value : String} {series : List Series} :
    value ∈ (partitionByLabel label series).keys ↔ value ∈ labelValues label series := by
  have carried :
      seriesWith label value series ≠ [] ↔ ∃ s ∈ series, s.label? label = some value := by
    simp [seriesWith]
  rw [mem_labelValues, ← carried, SortedMap.mem_keys_iff, find?_partitionByLabel]
  by_cases absent : seriesWith label value series = [] <;> simp [absent]

theorem keys_partitionByLabel_perm (label : String) (series : List Series) :
    (partitionByLabel label series).keys.Perm (labelValues label series) :=
  (List.perm_ext_iff_of_nodup (partitionByLabel label series).nodup_keys (List.nodup_dedup _)).2
    fun _ => mem_keys_partitionByLabel

theorem length_values_partitionByLabel (label : String) (series : List Series) :
    (partitionByLabel label series).values.length = (labelValues label series).length := by
  rw [← (keys_partitionByLabel_perm label series).length_eq]
  simp [SortedMap.values, SortedMap.keys]

namespace RawMetrics

/-- The series that a split divides: those of the sliceable metric, if it is stored as one. -/
def slice (raw : RawMetrics) (sliceMetric : String) : List Series :=
  ((raw.find? sliceMetric).bind RawValue.slice?).getD []

theorem split_eq_ok {raw : RawMetrics} {sliceMetric label : String} {parts : SortedMap RawMetrics}
    (h : raw.split sliceMetric label = .ok parts) :
    raw.find? sliceMetric = some (.slice (raw.slice sliceMetric)) ∧
      parts = (partitionByLabel label (raw.slice sliceMetric)).map
        fun _ part => raw.insert sliceMetric (.slice part) := by
  unfold split at h
  split at h
  · cases h
  · cases h
  · rename_i series found
    cases h
    have all : raw.slice sliceMetric = series := by simp [slice, found, RawValue.slice?]
    exact ⟨by rw [found, all], by rw [all]⟩

end RawMetrics
end KubeEntities
