import KubeEntities.Proofs.Population.Verdict
import KubeEntities.Proofs.SortedMap

/-! What fetched values leave in a metric set. A label that is found stands under the name of its
declaration (`Draft.find?_fill_label`). A fan-out over a label leaves under each of its values the
number of the last series that carries it and has one, if the number is finite, and everything else
stays as it was (`Draft.find?_fill_keyed`). -/

namespace KubeEntities

/-- The number that a fan-out over a label writes under a name. -/
def keyedNumber? (label : String) (series : List Series) (name : String) : Option Number :=
  ((series.reverse.find? fun s => s.label? label == some name && !s.value.isAbsent).bind
    (·.value.number?)).filter Number.isFinite

theorem Fetcher.find?_keyedValues (label : String) (series : List Series) (name : String) :
    (keyedValues label series).find? name =
      (series.reverse.find? fun s => s.label? label == some name && !s.value.isAbsent).map
        fun s => (.value s.value, keyedSourceType s.value) := by
  rw [keyedValues, SortedMap.find?_ofList, ← List.filterMap_reverse]
  induction series.reverse with
  | nil => rfl
  | cons s series ih =>
    rw [List.filterMap_cons, List.find?_cons]
    cases labelled : s.label? label with
    | none => simpa using ih
    | some value =>
      cases absent : s.value.isAbsent with
      | true => simpa using ih
      | false =>
        by_cases same : value = name
        · simp [same]
        · have other : (value == name) = false := by simpa using same
          simpa [other] using ih

theorem Fetcher.fromValuesKeyedByLabel_eq {metric group id : String} {groups : RawGroups}
    {raw : RawValue} (stored : groups.metric group id metric = .ok raw) (label : String) :
    fromValuesKeyedByLabel metric label group id groups =
      if raw.series.any fun s => (s.label? label).isSome then
        .ok (if (keyedValues label raw.series).isEmpty then none
          else some (.typed (keyedValues label raw.series).entries))
      else .error (.labelNotFound metric label) := by
  rw [fromValuesKeyedByLabel, stored]
  rfl

theorem MetricSet.stored?_keyed (v : Value) :
    stored? (Fetcher.keyedSourceType v) (.value v) =
      (v.number?.filter Number.isFinite).map .number := by
  have numeric : (Fetcher.keyedSourceType v).isNumeric = true := by cases v <;> rfl
  have read : (Fetched.value v).number? = v.number? := rfl
  unfold stored?
  rw [numeric, if_pos rfl, read]
  cases v.number? with
  | none => rfl
  | some x => cases finite : x.isFinite <;> simp [finite, Option.filter]

namespace Draft
variable {group id : String}

theorem find?_write_self (d : Draft) {w : Write} (named : w.name ≠ "") :
    (d.write group id w).set.find? w.name =
      (MetricSet.stored? w.type w.value).or (d.set.find? w.name) := by
  have filled : w.name.isEmpty = false := by simpa using named
  unfold Draft.write MetricSet.set
  rw [filled, if_neg (by simp)]
  cases MetricSet.stored? w.type w.value with
  | none => rfl
  | some stored =>
    change (d.set.insert w.name stored).find? w.name = some stored
    rw [SortedMap.find?_insert, if_pos rfl]

theorem find?_fill_scalar {groups : RawGroups} {s : Spec} {found : Fetched}
    (fetched : s.fetch group id groups = .ok (some found))
    (scalar : s.writes found = [⟨s.name, found, s.type⟩]) (named : s.name ≠ "") (d : Draft) :
    (d.fill groups group id s).set.find? s.name =
      (MetricSet.stored? s.type found).or (d.set.find? s.name) := by
  rw [Draft.fill, fetched]
  dsimp only
  rw [scalar]
  exact find?_write_self d named

theorem find?_fill_label {groups : RawGroups} {metric label value : String} {s : Spec}
    (fetch : s.fetch = Fetcher.fromLabel metric label) (type : s.type = .attr) (named : s.name ≠ "")
    (read : Fetcher.labelOf metric label group id groups = .ok value) (d : Draft) :
    (d.fill groups group id s).set.find? s.name = some (.text value) := by
  have fetched : s.fetch group id groups = .ok (some (.text value)) := by
    rw [fetch, Fetcher.fromLabel, read]
    rfl
  rw [find?_fill_scalar fetched rfl named, type]
  rfl

theorem find?_foldl_write_entries {α : Type} (m : SortedMap α) (value : α → Fetched)
    (type : α → SourceType) {key : String} (named : key ≠ "") (d : Draft) :
    ((m.entries.map fun e => Write.mk e.1 (value e.2) (type e.2)).foldl
      (Draft.write group id) d).set.find? key =
        ((m.find? key).bind fun a => MetricSet.stored? (type a) (value a)).or
          (d.set.find? key) := by
  have entries {l : List (String × α)} (sorted : l.Pairwise fun a b => a.1 < b.1) (d : Draft) :
      ((l.map fun e => Write.mk e.1 (value e.2) (type e.2)).foldl
        (Draft.write group id) d).set.find? key =
          ((l.lookup key).bind fun a => MetricSet.stored? (type a) (value a)).or
            (d.set.find? key) := by
    induction l generalizing d with
    | nil => rfl
    | cons e l ih =>
      obtain ⟨name, a⟩ := e
      have ⟨first, rest⟩ := List.pairwise_cons.1 sorted
      rw [List.map_cons, List.foldl_cons, ih rest, SortedMap.lookup_cons_eq]
      by_cases same : key = name
      · subst same
        rw [SortedMap.lookup_eq_none_of_lt first, if_pos rfl, find?_write_self _ named]
        simp
      · rw [if_neg same, find?_write _ (Ne.symm same)]
  exact entries m.sorted d

theorem find?_fill_of_error {groups : RawGroups} {s : Spec} {cause : ResolveError}
    (failed : s.fetch group id groups = .error cause) (d : Draft) (key : String) :
    (d.fill groups group id s).set.find? key = d.set.find? key := by
  rw [Draft.fill, failed]
  dsimp only
  split <;> rfl

theorem find?_fill_values {groups : RawGroups} {s : Spec} {m : SortedMap Fetched}
    (fetched : s.fetch group id groups = .ok (some (.values m.entries))) {key : String}
    (named : key ≠ "") (d : Draft) :
    (d.fill groups group id s).set.find? key =
      ((m.find? key).bind (MetricSet.stored? s.type)).or (d.set.find? key) := by
  rw [Draft.fill, fetched]
  exact find?_foldl_write_entries m (fun value => value) (fun _ => s.type) named d

theorem find?_fill_keyed {groups : RawGroups} {metric label : String} {raw : RawValue}
    (stored : groups.metric group id metric = .ok raw) {s : Spec}
    (fetch : s.fetch = Fetcher.fromValuesKeyedByLabel metric label) {key : String}
    (named : key ≠ "") (d : Draft) :
    (d.fill groups group id s).set.find? key =
      ((keyedNumber? label raw.series key).map .number).or (d.set.find? key) := by
  have value : ((Fetcher.keyedValues label raw.series).find? key).bind
      (fun e => MetricSet.stored? e.2 e.1) = (keyedNumber? label raw.series key).map .number := by
    rw [Fetcher.find?_keyedValues, keyedNumber?]
    cases raw.series.reverse.find? fun s => s.label? label == some key && !s.value.isAbsent with
    | none => rfl
    | some s => exact MetricSet.stored?_keyed s.value
  rw [← value]
  unfold Draft.fill
  rw [fetch, Fetcher.fromValuesKeyedByLabel_eq stored]
  cases labelled : raw.series.any fun s => (s.label? label).isSome with
  | false =>
    have unlabelled : (Fetcher.keyedValues label raw.series).find? key = none := by
      rw [Fetcher.find?_keyedValues, Option.map_eq_none_iff, List.find?_eq_none]
      intro s hs carries
      have without := List.any_eq_false.1 labelled s (List.mem_reverse.1 hs)
      simp only [Bool.and_eq_true, beq_iff_eq] at carries
      simp [carries.1] at without
    rw [unlabelled]
    cases s.isOptional <;> rfl
  | true =>
    cases vacant : (Fetcher.keyedValues label raw.series).isEmpty with
    | true =>
      rw [SortedMap.isEmpty_iff.1 vacant]
      rfl
    | false => exact find?_foldl_write_entries _ Prod.fst Prod.snd named d

end Draft
end KubeEntities
