import KubeEntities.Proofs.Split
import Mathlib.Data.List.Induction

/-! A split loses nothing and adds nothing. Dealing the series out one after the other, each into
the part of its value, comes to the division by the label (`split_eq_splitInPlace`). The parts then
are told by the series alone, and the series of all parts together are those that carry the label
(`split_partitions`). -/

namespace KubeEntities

theorem partitionByLabel_concat (label : String) (series : List Series) (s : Series) :
    partitionByLabel label (series ++ [s]) =
      (s.label? label).elim (partitionByLabel label series) fun value =>
        (partitionByLabel label series).upsert value fun before => before.getD [] ++ [s] := by
  rw [partitionByLabel_eq_foldl, List.foldl_append, ← partitionByLabel_eq_foldl]
  rfl

theorem flatMap_seriesWith_perm (label : String) (series : List Series) {values : List String}
    (once : values.Nodup) :
    (values.flatMap fun value => seriesWith label value series).Perm
      (series.filter fun s => (s.label? label).any (· ∈ values)) := by
  induction values with
  | nil =>
    have none_left :
        (series.filter fun s => (s.label? label).any (· ∈ ([] : List String))) = [] := by
      simp
    rw [none_left, List.flatMap_nil]
  | cons value values ih =>
    obtain ⟨fresh, once⟩ := List.nodup_cons.1 once
    let mine := series.filter fun s => (s.label? label).any (· ∈ value :: values)
    have first : mine.filter (fun s => s.label? label == some value) =
        seriesWith label value series := by
      rw [List.filter_filter, seriesWith]
      refine List.filter_congr fun s _ => ?_
      cases s.label? label with
      | none => rfl
      | some other => by_cases same : other = value <;> simp [same]
    have others : mine.filter (fun s => !(s.label? label == some value)) =
        series.filter fun s => (s.label? label).any (· ∈ values) := by
      rw [List.filter_filter]
      refine List.filter_congr fun s _ => ?_
      cases s.label? label with
      | none => simp
      | some other =>
        by_cases same : other = value
        · simp [same, fresh]
        · simp [same]
    rw [List.flatMap_cons]
    refine ((ih once).append_left _).trans ?_
    rw [← first, ← others]
    exact List.filter_append_perm _ mine

theorem flatten_partitionByLabel_perm (label : String) (series : List Series) :
    (partitionByLabel label series).values.flatten.Perm
      (series.filter fun s => (s.label? label).isSome) := by
  have held := flatMap_seriesWith_perm label series (partitionByLabel label series).nodup_keys
  have carried : ∀ s ∈ series, (s.label? label).any
      (· ∈ (partitionByLabel label series).keys) = (s.label? label).isSome := by
    intro s hs
    cases labelled : s.label? label with
    | none => rfl
    | some value => simpa using mem_keys_partitionByLabel.2 (mem_labelValues.2 ⟨s, hs, labelled⟩)
  rwa [List.filter_congr carried, List.flatMap_def, ← values_partitionByLabel] at held

namespace RawMetrics

def shared (raw : RawMetrics) (sliceMetric : String) : RawMetrics :=
  raw.filter fun metric _ => metric != sliceMetric

def push (sliceMetric : String) (s : Series) (part : RawMetrics) : RawMetrics :=
  match part.find? sliceMetric with
  | some (.slice series) => part.insert sliceMetric (.slice (series ++ [s]))
  | _ => part.insert sliceMetric (.slice [s])

/-- Puts a series into its part, which is made of the shared metrics at its first series. -/
def deal (raw : RawMetrics) (sliceMetric label : String) (parts : SortedMap RawMetrics)
    (s : Series) : SortedMap RawMetrics :=
  match s.label? label with
  | none => parts
  | some value =>
    parts.upsert value fun part? => push sliceMetric s (part?.getD (raw.shared sliceMetric))

def splitInPlace (raw : RawMetrics) (sliceMetric label : String) :
    Except ResolveError (SortedMap RawMetrics) := do
  let some stored := raw.find? sliceMetric | throw (.metricNotFound sliceMetric)
  let some series := stored.slice? | throw (.shapeMismatch sliceMetric .sliceable)
  return series.foldl (raw.deal sliceMetric label) ∅

section
variable (raw : RawMetrics) (sliceMetric label : String)

theorem find?_shared (metric : String) :
    (raw.shared sliceMetric).find? metric =
      if metric = sliceMetric then none else raw.find? metric := by
  rw [shared, SortedMap.find?_filter]
  by_cases sliced : metric = sliceMetric
  · simp [sliced]
  · cases raw.find? metric <;> simp [sliced]

theorem push_shared (s : Series) :
    push sliceMetric s (raw.shared sliceMetric) = raw.insert sliceMetric (.slice [s]) := by
  rw [push, find?_shared, if_pos rfl]
  refine SortedMap.ext_find? fun metric => ?_
  by_cases sliced : metric = sliceMetric <;> simp [SortedMap.find?_insert, find?_shared, sliced]

theorem push_insert (series : List Series) (s : Series) :
    push sliceMetric s (raw.insert sliceMetric (.slice series)) =
      raw.insert sliceMetric (.slice (series ++ [s])) := by
  have there : (raw.insert sliceMetric (.slice series)).find? sliceMetric =
      some (.slice series) := by
    simp [SortedMap.find?_insert]
  rw [push, there]
  refine SortedMap.ext_find? fun metric => ?_
  by_cases sliced : metric = sliceMetric <;> simp [SortedMap.find?_insert, sliced]

def partsOf (series : List Series) : SortedMap RawMetrics :=
  (partitionByLabel label series).map fun _ part => raw.insert sliceMetric (.slice part)

/-- One step keeps to the division: the parts are those of the series dealt out so far. -/
theorem deal_partsOf (series : List Series) (s : Series) :
    raw.deal sliceMetric label (raw.partsOf sliceMetric label series) s =
      raw.partsOf sliceMetric label (series ++ [s]) := by
  unfold deal partsOf
  rw [partitionByLabel_concat]
  cases s.label? label with
  | none => rfl
  | some value =>
    refine SortedMap.ext_find? fun other => ?_
    simp only [Option.elim_some, SortedMap.find?_map, SortedMap.find?_upsert]
    split
    · cases (partitionByLabel label series).find? value with
      | none => simp [push_shared]
      | some part => simp [push_insert]
    · rfl

theorem foldl_deal (series : List Series) :
    series.foldl (raw.deal sliceMetric label) ∅ = raw.partsOf sliceMetric label series := by
  induction series using List.reverseRecOn with
  | nil => rfl
  | append_singleton series s ih =>
    rw [List.foldl_append, ih, List.foldl_cons, List.foldl_nil, deal_partsOf]

theorem split_eq_splitInPlace :
    raw.split sliceMetric label = raw.splitInPlace sliceMetric label := by
  unfold split splitInPlace
  cases raw.find? sliceMetric with
  | none => rfl
  | some stored =>
    cases stored with
    | single s => rfl
    | slice series => exact congrArg Except.ok (raw.foldl_deal sliceMetric label series).symm

end

theorem split_of_slice {raw : RawMetrics} {sliceMetric : String} {series : List Series}
    (stored : raw.find? sliceMetric = some (.slice series)) (label : String) :
    raw.split sliceMetric label = .ok (raw.partsOf sliceMetric label series) := by
  unfold split
  rw [stored]
  rfl

theorem find?_partsOf {raw : RawMetrics} {sliceMetric label value : String} {series : List Series}
    {part : RawMetrics} (h : (raw.partsOf sliceMetric label series).find? value = some part) :
    value ∈ labelValues label series ∧
      part = raw.insert sliceMetric (.slice (seriesWith label value series)) := by
  rw [partsOf, SortedMap.find?_map] at h
  obtain ⟨mine, found, rfl⟩ := Option.map_eq_some_iff.1 h
  have listed := SortedMap.mem_keys_iff.2 (Option.isSome_of_eq_some found)
  rw [find?_partitionByLabel] at found
  split at found
  · cases found
  · cases found
    exact ⟨mem_keys_partitionByLabel.1 listed, rfl⟩

theorem slice_insert (raw : RawMetrics) (sliceMetric : String) (series : List Series) :
    slice (raw.insert sliceMetric (.slice series)) sliceMetric = series := by
  simp [slice, SortedMap.find?_insert, RawValue.slice?]

/-- A split fails if the metric is not there or is a single series, and otherwise has a part for
each value of the label: the series with that value in their order, none of them missing, and all
other metrics as they are. Each series that carries the label is in one part, once for each time it
is stored, and no other series is in any. -/
theorem split_partitions (raw : RawMetrics) (sliceMetric label : String) :
    (raw.split sliceMetric label = .error (.metricNotFound sliceMetric) ↔
      raw.find? sliceMetric = none) ∧
    (raw.split sliceMetric label = .error (.shapeMismatch sliceMetric .sliceable) ↔
      ∃ s, raw.find? sliceMetric = some (.single s)) ∧
    ∀ series, raw.find? sliceMetric = some (.slice series) →
      ∃ parts, raw.split sliceMetric label = .ok parts ∧
        (∀ value, value ∈ parts.keys ↔ ∃ s ∈ series, s.label? label = some value) ∧
        (∀ value part, parts.find? value = some part →
          part.find? sliceMetric =
              some (.slice (seriesWith label value series)) ∧
            seriesWith label value series ≠ [] ∧
            ∀ metric, metric ≠ sliceMetric → part.find? metric = raw.find? metric) ∧
        (parts.values.flatMap fun part => part.slice sliceMetric).Perm
          (series.filter fun s => (s.label? label).isSome) := by
  refine ⟨?_, ?_, fun series stored => ⟨_, split_of_slice stored label, ?_, ?_, ?_⟩⟩
  · unfold split
    split <;> simp [*]
  · unfold split
    split <;> simp [*]
  · intro value
    rw [partsOf, SortedMap.keys_map, mem_keys_partitionByLabel, mem_labelValues]
  · intro value part found
    obtain ⟨listed, rfl⟩ := find?_partsOf found
    refine ⟨?_, seriesWith_ne_nil listed, fun metric other => ?_⟩
    · rw [SortedMap.find?_insert, if_pos rfl]
    · rw [SortedMap.find?_insert, if_neg other]
  · have divided := flatten_partitionByLabel_perm label series
    rw [partsOf, SortedMap.values_map, List.flatMap_map]
    simpa [slice_insert, List.flatMap_def] using divided

theorem split_partitions_quota :
    let series (labels : List (String × String)) : Series := ⟨.ofList labels, .gauge (.ofInt 1)⟩
    let hard := series [("resource", "pods"), ("type", "hard")]
    let used := series [("resource", "pods"), ("type", "used")]
    let secrets := series [("resource", "secrets"), ("type", "hard")]
    let all := [hard, secrets, used, series [("type", "hard")]]
    let raw : RawMetrics := .ofList [("kube_resourcequota", .slice all),
      ("kube_resourcequota_created", .single (series [("namespace", "web")]))]
    raw.find? "kube_resourcequota" = some (.slice all) ∧
      raw.split "kube_limitrange" "resource" = .error (.metricNotFound "kube_limitrange") ∧
      raw.split "kube_resourcequota_created" "resource" =
        .error (.shapeMismatch "kube_resourcequota_created" .sliceable) ∧
      ∃ parts, raw.split "kube_resourcequota" "resource" = .ok parts ∧
        (∀ value, value ∈ parts.keys ↔ ∃ s ∈ all, s.label? "resource" = some value) ∧
        seriesWith "resource" "pods" all = [hard, used] ∧
        (parts.values.flatMap fun part => part.slice "kube_resourcequota").Perm
          [hard, secrets, used] := by
  intro series hard used secrets all raw
  have stored : raw.find? "kube_resourcequota" = some (.slice all) := by decide +kernel
  obtain ⟨parts, read, values, _, whole⟩ :=
    (split_partitions raw "kube_resourcequota" "resource").2.2 all stored
  have carrying : (all.filter fun s => (s.label? "resource").isSome) = [hard, secrets, used] := by
    decide +kernel
  refine ⟨stored, ?_, ?_, parts, read, values, by decide +kernel, carrying ▸ whole⟩
  · exact (split_partitions raw "kube_limitrange" "resource").1.2 (by decide +kernel)
  · have single : raw.find? "kube_resourcequota_created" =
        some (.single (series [("namespace", "web")])) := by
      decide +kernel
    exact (split_partitions raw "kube_resourcequota_created" "resource").2.1.2 ⟨_, single⟩

end RawMetrics
end KubeEntities
