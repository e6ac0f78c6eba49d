import KubeEntities.Proofs.Population.Values

/-! Fan-outs over a label. What a fan-out finds is decided by the series that carry the label: it
fails if there are none, finds nothing if none of them has a number, and otherwise holds under each
value the last number that stands under it (`fromValuesKeyedByLabel_cases`). -/

namespace KubeEntities

theorem Value.number?_eq_none_iff {v : Value} : v.number? = none ↔ v = .absent := by
  cases v <;> simp [number?]

namespace Fetcher

theorem counts_iff {label key : String} {s : Series} :
    (s.label? label == some key && !s.value.isAbsent) = true ↔
      s.label? label = some key ∧ ∃ x, s.value.number? = some x := by
  cases s.value <;> simp [Value.isAbsent, Value.number?]

theorem mem_keys_keyedValues {label key : String} {series : List Series} :
    key ∈ (keyedValues label series).keys ↔
      ∃ s ∈ series, ∃ x, s.label? label = some key ∧ s.value.number? = some x := by
  rw [SortedMap.mem_keys_iff, find?_keyedValues, Option.isSome_map, List.find?_isSome]
  simp only [counts_iff, List.mem_reverse, exists_and_left]

theorem isEmpty_keyedValues {label : String} {series : List Series} :
    (keyedValues label series).isEmpty = true ↔
      ∀ s ∈ series, (s.label? label).isSome = true → s.value = .absent := by
  have vacant : (keyedValues label series).isEmpty = true ↔
      ∀ key, key ∉ (keyedValues label series).keys := by
    simp [SortedMap.isEmpty, SortedMap.keys, List.eq_nil_iff_forall_not_mem]
  rw [vacant]
  constructor
  · intro none_there s hs carries
    obtain ⟨key, labelled⟩ := Option.isSome_iff_exists.1 carries
    refine Value.number?_eq_none_iff.1 (Option.eq_none_iff_forall_ne_some.2 fun x number => ?_)
    exact none_there key (mem_keys_keyedValues.2 ⟨s, hs, x, labelled, number⟩)
  · intro absent key there
    obtain ⟨s, hs, x, labelled, number⟩ := mem_keys_keyedValues.1 there
    rw [absent s hs (Option.isSome_of_eq_some labelled)] at number
    cases number

theorem find?_keyedValues_last {label key : String} {before after : List Series} {s : Series}
    {x : Number} (labelled : s.label? label = some key) (number : s.value.number? = some x)
    (last : ∀ t ∈ after, t.label? label = some key → t.value.number? = none) :
    (keyedValues label (before ++ s :: after)).find? key =
      some (.value s.value, keyedSourceType s.value) := by
  have found : (before ++ s :: after).reverse.find?
      (fun s => s.label? label == some key && !s.value.isAbsent) = some s := by
    refine List.find?_eq_some_iff_append.2
      ⟨counts_iff.2 ⟨labelled, x, number⟩, after.reverse, before.reverse, by simp, ?_⟩
    intro t later
    rw [Bool.not_eq_true', ← Bool.not_eq_true, counts_iff]
    rintro ⟨carries, y, hidden⟩
    rw [last t (List.mem_reverse.1 later) carries] at hidden
    cases hidden
  rw [find?_keyedValues, found]
  rfl

/-- A fan-out over a label fails exactly if no series of the metric carries the label, and finds
nothing exactly if one does but none with a number. Otherwise it has an entry for each value under
which there is a number, and that holds the last one, also if it is NaN or if series without a
number come after it; counters are rates and all else gauges. -/
theorem fromValuesKeyedByLabel_cases {metric group id : String} {groups : RawGroups}
    {raw : RawValue} (stored : groups.metric group id metric = .ok raw) (label : String) :
    let fetched := fromValuesKeyedByLabel metric label group id groups
    (fetched = .error (.labelNotFound metric label) ↔ ∀ s ∈ raw.series, s.label? label = none) ∧
    (fetched = .ok none ↔ (∃ s ∈ raw.series, (s.label? label).isSome = true) ∧
      ∀ s ∈ raw.series, (s.label? label).isSome = true → s.value = .absent) ∧
    ((∃ s ∈ raw.series, ∃ key x, s.label? label = some key ∧ s.value.number? = some x) →
      ∃ found : SortedMap (Fetched × SourceType),
        fetched = .ok (some (.typed found.entries)) ∧
        (∀ key, key ∈ found.keys ↔
          ∃ s ∈ raw.series, ∃ x, s.label? label = some key ∧ s.value.number? = some x) ∧
        ∀ before s after key x, raw.series = before ++ s :: after →
          s.label? label = some key → s.value.number? = some x →
            (∀ t ∈ after, t.label? label = some key → t.value.number? = none) →
              found.find? key =
                some (.value s.value, if s.value.isCounter then .rate else .gauge)) := by
  intro fetched
  have read : fetched = _ := fromValuesKeyedByLabel_eq stored label
  have carried : (raw.series.any fun s => (s.label? label).isSome) = true ↔
      ∃ s ∈ raw.series, (s.label? label).isSome = true := List.any_eq_true
  rw [read]
  refine ⟨?_, ?_, ?_⟩
  · split
    · rename_i some_carries
      obtain ⟨s, hs, carries⟩ := carried.1 some_carries
      simp only [reduceCtorEq, false_iff]
      intro none_carries
      rw [none_carries s hs] at carries
      cases carries
    · rename_i none_carries
      simpa using none_carries
  · rw [← isEmpty_keyedValues, ← carried]
    split <;> simp [*]
  · rintro ⟨s, hs, key, x, labelled, number⟩
    have some_carries := carried.2 ⟨s, hs, Option.isSome_of_eq_some labelled⟩
    have filled : ¬(keyedValues label raw.series).isEmpty = true := by
      intro vacant
      rw [isEmpty_keyedValues.1 vacant s hs (Option.isSome_of_eq_some labelled)] at number
      cases number
    refine ⟨keyedValues label raw.series, ?_, fun key => mem_keys_keyedValues, ?_⟩
    · rw [if_pos some_carries, if_neg filled]
    · intro before s after key x cut labelled number last
      rw [cut]
      exact find?_keyedValues_last labelled number last

/-- A counter with a series without a number behind it, a NaN, and a series without the label. -/
theorem fromValuesKeyedByLabel_cases_hidden :
    let series (labels : List (String × String)) (value : Value) : Series := ⟨.ofList labels, value⟩
    let raw : RawValue := .slice [series [("type", "hard")] (.counter (.ofInt 4)),
      series [("type", "used")] (.gauge .nan), series [("type", "hard")] .absent,
      series [("resource", "pods")] (.gauge (.ofInt 1))]
    let groups : RawGroups :=
      .only "resourcequota" "web_quota" (.singleton "kube_resourcequota" raw)
    let fetch := fun label =>
      fromValuesKeyedByLabel "kube_resourcequota" label "resourcequota" "web_quota" groups
    groups.metric "resourcequota" "web_quota" "kube_resourcequota" = .ok raw ∧
      fetch "scope" = .error (.labelNotFound "kube_resourcequota" "scope") ∧
      ∃ found : SortedMap (Fetched × SourceType), fetch "type" = .ok (some (.typed found.entries)) ∧
        found.find? "hard" = some (.value (.counter (.ofInt 4)), .rate) ∧
        found.find? "used" = some (.value (.gauge .nan), .gauge) := by
  intro series raw groups fetch
  have stored : groups.metric "resourcequota" "web_quota" "kube_resourcequota" = .ok raw := rfl
  obtain ⟨failed, _⟩ := fromValuesKeyedByLabel_cases stored "scope"
  obtain ⟨_, _, filled⟩ := fromValuesKeyedByLabel_cases stored "type"
  obtain ⟨found, read, _, last⟩ := filled ⟨_, List.mem_cons_self, "hard", .ofInt 4, rfl, rfl⟩
  refine ⟨stored, failed.2 (by decide +kernel), found, read, ?_, ?_⟩
  · exact last [] _ _ "hard" (.ofInt 4) rfl rfl rfl (by decide +kernel)
  · exact last [_] _ _ "used" .nan rfl rfl rfl (by decide +kernel)

end Fetcher
end KubeEntities
