import KubeEntities.SortedMap
import Mathlib.Data.List.Dedup

/-! More about sorted maps: look-ups of mapped, filtered, listed and merged maps, and what a
selection of entries by key comes to. -/

namespace KubeEntities.SortedMap
universe u v
variable {α : Type u} {β : Type v}

theorem find?_map (m : SortedMap α) (f : String → α → β) (key : String) :
    (m.map f).find? key = (m.find? key).map (f key) := by
  have entries (l : List (String × α)) :
      (l.map fun e => (e.1, f e.1 e.2)).lookup key = (l.lookup key).map (f key) := by
    induction l with
    | nil => rfl
    | cons e l ih =>
      rw [List.map_cons, lookup_cons_eq, ih, show e = (e.1, e.2) from rfl, lookup_cons_eq]
      split
      · rename_i same
        simp [same]
      · rfl
  exact entries m.entries

theorem map_injective {f : String → α → β} (inj : ∀ key a b, f key a = f key b → a = b)
    {m n : SortedMap α} (h : m.map f = n.map f) : m = n := by
  refine ext_find? fun key => ?_
  have same := congrArg (·.find? key) h
  simp only [find?_map] at same
  exact Option.map_injective (inj key) same

theorem put_eq_put_const {key : String} (f : Option α → α) {l : List (String × α)}
    (h : l.Pairwise (fun a b => a.1 < b.1)) :
    put key f l = put key (fun _ => f (l.lookup key)) l := by
  have same : (⟨_, pairwise_put key f h⟩ : SortedMap α) =
      ⟨_, pairwise_put key (fun _ => f (l.lookup key)) h⟩ :=
    ext_find? fun other => (lookup_put key other f h).trans
      (lookup_put key other (fun _ => f (l.lookup key)) h).symm
  exact congrArg entries same

theorem find?_filter (m : SortedMap α) (keep : String → α → Bool) (key : String) :
    (m.filter keep).find? key = (m.find? key).filter (keep key) := by
  ext value
  rw [find?_eq_some_iff, Option.filter_eq_some_iff, find?_eq_some_iff]
  exact List.mem_filter

theorem find?_singleton (key other : String) (value : α) :
    (singleton key value).find? other = if other = key then some value else none :=
  lookup_cons_eq key value other []

theorem keys_map (m : SortedMap α) (f : String → α → β) : (m.map f).keys = m.keys := by
  simp [keys, map]

theorem keys_filter (m : SortedMap α) (keep : String → α → Bool) :
    (m.filter keep).keys = m.keys.filter fun key => (m.find? key).any (keep key) := by
  have kept : ∀ e ∈ m.entries, keep e.1 e.2 = (m.find? e.1).any (keep e.1) := by
    intro e he
    simp [find?_eq_some_iff.2 he]
  simp only [keys, filter, List.filter_map]
  exact congrArg (List.map _) (List.filter_congr kept)

theorem find?_ofList (l : List (String × α)) (key : String) :
    (ofList l).find? key = (l.reverse.find? (·.1 == key)).map (·.2) := by
  have added (l : List (String × α)) (m : SortedMap α) :
      (l.foldl (fun m e => m.insert e.1 e.2) m).find? key =
        ((l.reverse.find? (·.1 == key)).map (·.2)).or (m.find? key) := by
    induction l generalizing m with
    | nil => rfl
    | cons e l ih =>
      rw [List.foldl_cons, ih, find?_insert, List.reverse_cons, List.find?_append]
      by_cases same : e.1 = key
      · cases l.reverse.find? (·.1 == key) <;> simp [same]
      · simp [same, Ne.symm same]
  rw [ofList, added, find?_empty, Option.or_none]

theorem find?_ofList_last {before after : List (String × α)} {key : String}
    (last : ∀ e ∈ after, e.1 ≠ key) (value : α) :
    (ofList (before ++ (key, value) :: after)).find? key = some value := by
  have behind : after.reverse.find? (·.1 == key) = none := by simpa using last
  rw [find?_ofList, List.reverse_append, List.reverse_cons, List.append_assoc, List.find?_append,
    behind]
  simp

theorem mem_of_find?_ofList {l : List (String × α)} {key : String} {value : α}
    (h : (ofList l).find? key = some value) : (key, value) ∈ l := by
  rw [find?_ofList] at h
  obtain ⟨e, last, rfl⟩ := Option.map_eq_some_iff.1 h
  have same : e.1 = key := by simpa using List.find?_some last
  exact same ▸ List.mem_reverse.1 (List.mem_of_find?_eq_some last)

theorem isSome_find?_ofList {l : List (String × α)} {e : String × α} (h : e ∈ l) :
    ((ofList l).find? e.1).isSome = true := by
  rw [find?_ofList, Option.isSome_map, List.find?_isSome]
  exact ⟨e, List.mem_reverse.2 h, beq_self_eq_true e.1⟩

theorem map_ofList (f : String → α → β) (l : List (String × α)) :
    (ofList l).map f = ofList (l.map fun e => (e.1, f e.1 e.2)) := by
  refine ext_find? fun key => ?_
  rw [find?_map, find?_ofList, find?_ofList, ← List.map_reverse, List.find?_map]
  have same : ((fun e : String × β => e.1 == key) ∘ fun e : String × α => (e.1, f e.1 e.2)) =
      fun e => e.1 == key := rfl
  rw [same]
  cases found : l.reverse.find? (fun e => e.1 == key) with
  | none => rfl
  | some e =>
    have named : e.1 = key := by simpa using List.find?_some found
    simp [named]

theorem keys_ofList_congr {l l' : List (String × α)} (h : l.map (·.1) = l'.map (·.1)) :
    (ofList l).keys = (ofList l').keys := by
  have alone (l : List (String × α)) :
      (ofList l).keys = (ofList ((l.map (·.1)).map fun key => (key, ()))).keys := by
    rw [← keys_map (ofList l) fun _ _ => (), map_ofList, List.map_map]
    rfl
  rw [alone l, alone l', h]

theorem ofList_of_perm {l : List (String × α)} {m : SortedMap α} (h : l.Perm m.entries) :
    ofList l = m := by
  refine ext_find? fun key => ?_
  cases found : (ofList l).find? key with
  | some value => exact (find?_eq_some_iff.2 (h.mem_iff.1 (mem_of_find?_ofList found))).symm
  | none =>
    cases there : m.find? key with
    | none => rfl
    | some value =>
      have listed := isSome_find?_ofList (h.mem_iff.2 (find?_eq_some_iff.1 there))
      rw [found] at listed
      cases listed

theorem pairwise_keys (m : SortedMap α) : m.keys.Pairwise (· < ·) := List.pairwise_map.2 m.sorted

theorem nodup_keys (m : SortedMap α) : m.keys.Nodup := m.pairwise_keys.imp String.ne_of_lt

theorem mem_keys_iff {m : SortedMap α} {key : String} :
    key ∈ m.keys ↔ (m.find? key).isSome = true := by
  simp [keys, Option.isSome_iff_exists, find?_eq_some_iff]

theorem mem_keys_ofList {l : List (String × α)} {key : String} :
    key ∈ (ofList l).keys ↔ key ∈ l.map (·.1) := by
  rw [mem_keys_iff]
  constructor
  · intro there
    obtain ⟨value, found⟩ := Option.isSome_iff_exists.1 there
    exact List.mem_map_of_mem (mem_of_find?_ofList found)
  · intro listed
    obtain ⟨e, he, rfl⟩ := List.mem_map.1 listed
    exact isSome_find?_ofList he

theorem size_ofList_eq_iff (l : List (String × α)) :
    (ofList l).size = l.length ↔ (l.map (·.1)).Nodup := by
  have keys : (ofList l).keys.Perm (l.map (·.1)).dedup :=
    (List.perm_ext_iff_of_nodup (ofList l).nodup_keys (List.nodup_dedup _)).2 fun key => by
      rw [mem_keys_ofList, List.mem_dedup]
  have size : (ofList l).size = (l.map (·.1)).dedup.length := by
    rw [← keys.length_eq, SortedMap.keys, List.length_map, SortedMap.size]
  have listed : l.length = (l.map (·.1)).length := by rw [List.length_map]
  rw [size, listed]
  constructor
  · intro same
    exact List.dedup_eq_self.1 ((List.dedup_sublist _).eq_of_length same)
  · intro once
    rw [once.dedup]

theorem mem_values_iff {m : SortedMap α} {value : α} :
    value ∈ m.values ↔ ∃ key, m.find? key = some value := by
  simp [values, find?_eq_some_iff]

theorem filter_key (m : SortedMap α) (key : String) :
    m.entries.filter (fun e => e.1 == key) = ((m.find? key).map (key, ·)).toList := by
  have entries {l : List (String × α)} (sorted : l.Pairwise fun a b => a.1 < b.1) :
      l.filter (fun e => e.1 == key) = ((l.lookup key).map (key, ·)).toList := by
    induction l with
    | nil => rfl
    | cons e l ih =>
      have ⟨first, rest⟩ := List.pairwise_cons.1 sorted
      rw [List.filter_cons, show e = (e.1, e.2) from rfl, lookup_cons_eq]
      by_cases same : e.1 = key
      · have none_left : l.filter (fun e => e.1 == key) = [] := by
          rw [List.filter_eq_nil_iff]
          intro a ha
          simpa [← same] using (String.ne_of_lt (first a ha)).symm
        simp [same, none_left]
      · simp [same, Ne.symm same, ih rest]
  exact entries m.sorted

/-- Takes in the entries of `n`; under a key of both, `f` sees the value of `m`. -/
def mergeWith (f : Option α → α → α) (m n : SortedMap α) : SortedMap α :=
  n.entries.foldl (fun m e => m.upsert e.1 fun old => f old e.2) m

theorem find?_mergeWith (f : Option α → α → α) (m n : SortedMap α) (key : String) :
    (mergeWith f m n).find? key = ((n.find? key).map (f (m.find? key))).or (m.find? key) := by
  have entries {l : List (String × α)} (sorted : l.Pairwise fun a b => a.1 < b.1)
      (m : SortedMap α) :
      (l.foldl (fun m e => m.upsert e.1 fun old => f old e.2) m).find? key =
        ((l.lookup key).map (f (m.find? key))).or (m.find? key) := by
    induction l generalizing m with
    | nil => rfl
    | cons e l ih =>
      have ⟨first, rest⟩ := List.pairwise_cons.1 sorted
      rw [List.foldl_cons, ih rest, find?_upsert, show e = (e.1, e.2) from rfl, lookup_cons_eq]
      by_cases same : key = e.1
      · have absent : l.lookup key = none := lookup_eq_none_of_lt (same ▸ first)
        simp [same ▸ absent, same]
      · simp [same]
  exact entries n.sorted m

def overlay (m n : SortedMap α) : SortedMap α := mergeWith (fun _ value => value) m n

theorem find?_overlay (m n : SortedMap α) (key : String) :
    (overlay m n).find? key = (n.find? key).or (m.find? key) := by
  rw [overlay, find?_mergeWith, Option.map_id']

@[simp] theorem overlay_empty (m : SortedMap α) : overlay m ∅ = m := rfl

@[simp] theorem empty_overlay (m : SortedMap α) : overlay ∅ m = m :=
  ext_find? fun key => by simp [find?_overlay]

theorem overlay_insert (m n : SortedMap α) (key : String) (value : α) :
    overlay m (n.insert key value) = (overlay m n).insert key value :=
  ext_find? fun other => by
    simp only [find?_overlay, find?_insert]
    split <;> rfl

theorem overlay_of_keys_eq {m n : SortedMap α} (h : m.keys = n.keys) : overlay m n = n := by
  refine ext_find? fun key => ?_
  rw [find?_overlay]
  cases found : n.find? key with
  | some value => rfl
  | none =>
    have absent : key ∉ m.keys := by
      rw [h, mem_keys_iff, found]
      simp
    have missing : m.find? key = none := by simpa [mem_keys_iff] using absent
    rw [missing]
    rfl

theorem values_map (m : SortedMap α) (f : α → β) :
    (m.map fun _ value => f value).values = m.values.map f := by
  simp [values, map]

end KubeEntities.SortedMap
