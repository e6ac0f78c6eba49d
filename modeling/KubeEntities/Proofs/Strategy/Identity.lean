import KubeEntities.Proofs.Grouping
import KubeEntities.Strategy.Identity

/-! What a resolved identity tells of an entity. Every label that a type holds was read off one of
the entity's own series (`fromLabels_eq_ok`), and where these agree on their namespace it is the
one that is looked up (`fromLabel_eq`). -/

namespace KubeEntities

theorem Except.bind_eq_ok {ε α β : Type} {x : Except ε α} {f : α → Except ε β} {b : β}
    (h : x >>= f = .ok b) : ∃ a, x = .ok a ∧ f a = .ok b := by
  cases x with
  | error e => cases h
  | ok a => exact ⟨a, rfl, h⟩

theorem RawGroups.entity_eq_ok {groups : RawGroups} {group id : String} {raw : RawMetrics}
    (h : groups.entity group id = .ok raw) : groups.entity? group id = some raw := by
  unfold entity at h
  split at h
  · rename_i raw' there
    cases h
    exact there
  · cases h

theorem RawGroups.metric_eq_ok {groups : RawGroups} {group id key : String} {value : RawValue}
    (h : groups.metric group id key = .ok value) :
    ∃ raw, groups.entity? group id = some raw ∧ raw.find? key = some value := by
  unfold metric at h
  split at h
  · cases h
  · rename_i raw there
    split at h
    · cases h
    · rename_i value' found
      cases h
      exact ⟨raw, there, found⟩

theorem RawGroups.metric_only {group id key : String} {raw : RawMetrics} {value : RawValue}
    (found : raw.find? key = some value) : (only group id raw).metric group id key = .ok value := by
  have there : (only group id raw).entity? group id = some raw := by
    simp [only, entity?, SortedMap.find?, SortedMap.singleton]
  unfold metric
  rw [there]
  dsimp only
  rw [found]

theorem Fetcher.nonEmptyLabel?_eq_some {s : Series} {label value : String}
    (labelled : s.label? label = some value) (filled : value ≠ "") :
    nonEmptyLabel? s label = some value := by
  unfold nonEmptyLabel?
  rw [labelled]
  split
  · rename_i blank
    cases blank
    exact absurd rfl filled
  · rfl

theorem Fetcher.labelOf_eq_ok {metric label group id value : String} {groups : RawGroups}
    (h : labelOf metric label group id groups = .ok value) :
    ∃ s, groups.Holds group id s ∧ s.label? label = some value := by
  obtain ⟨stored, found, h⟩ := Except.bind_eq_ok h
  obtain ⟨s, first, h⟩ := Except.bind_eq_ok h
  obtain ⟨raw, there, found⟩ := RawGroups.metric_eq_ok found
  have inside : s ∈ stored.series := by
    unfold firstSeries at first
    split at first
    · cases first
    · rename_i s' rest listed
      cases first
      exact listed ▸ List.mem_cons_self
  refine ⟨s, ⟨raw, there, ?_⟩, ?_⟩
  · exact List.mem_flatMap.2 ⟨stored, List.mem_map.2 ⟨(metric, stored),
      SortedMap.find?_eq_some_iff.1 found, rfl⟩, inside⟩
  · split at h
    · cases h
    · rename_i value' labelled
      cases h
      exact labelled

section
variable {metric label group id : String} {groups : RawGroups} {s : Series}

theorem RawGroups.holds_of_single (h : groups.metric group id metric = .ok (.single s)) :
    groups.Holds group id s := by
  obtain ⟨raw, there, found⟩ := metric_eq_ok h
  exact ⟨raw, there, RawMetrics.mem_series_iff.2 ⟨metric, .single s, found, List.mem_cons_self⟩⟩

theorem Fetcher.labelOf_of_single {value : String}
    (anchor : groups.metric group id metric = .ok (.single s))
    (h : labelOf metric label group id groups = .ok value) : s.label? label = some value := by
  obtain ⟨stored, found, rest⟩ := Except.bind_eq_ok h
  obtain ⟨first, read, chosen⟩ := Except.bind_eq_ok rest
  cases anchor.symm.trans found
  cases read
  split at chosen
  · cases chosen
  · rename_i value' labelled
    cases chosen
    exact labelled

theorem anchorLabel_eq_ok {stored : RawValue} {value : String}
    (h : anchorLabel metric stored label = .ok value) :
    ∃ s, stored = .single s ∧ s.label? label = some value := by
  unfold anchorLabel at h
  split at h
  · cases h
  · rename_i s
    split at h
    · cases h
    · rename_i value' labelled
      cases h
      exact ⟨s, rfl, labelled⟩

namespace IdGenerator
variable {name : String}

theorem fromLabel_eq_ok (h : fromLabel metric label group id groups = .ok name) :
    ∃ s, groups.metric group id metric = .ok (.single s) ∧ s.label? label = some name := by
  obtain ⟨stored, found, h⟩ := Except.bind_eq_ok h
  obtain ⟨s, rfl, labelled⟩ := anchorLabel_eq_ok h
  exact ⟨s, found, labelled⟩

theorem pendingPod_eq_ok (h : pendingPod metric group id groups = .ok name) :
    ∃ s, groups.metric group id metric = .ok (.single s) ∧ s.label? podLabel = some name := by
  obtain ⟨stored, found, rest⟩ := Except.bind_eq_ok h
  obtain ⟨pod, read, rest⟩ := Except.bind_eq_ok rest
  obtain ⟨condition, _, chosen⟩ := Except.bind_eq_ok rest
  obtain ⟨s, rfl, labelled⟩ := anchorLabel_eq_ok read
  refine ⟨s, found, ?_⟩
  split at chosen
  · cases chosen
    exact labelled
  · cases chosen

theorem pendingPod_of_single (anchor : groups.metric group id metric = .ok (.single s)) :
    pendingPod metric group id groups =
      match s.label? podLabel, s.label? "condition" with
      | none, _ => .error (.labelNotFound metric podLabel)
      | some _, none => .error (.labelNotFound metric "condition")
      | some pod, some condition =>
        if condition = "false" then .ok pod else .error (.podScheduled pod) := by
  simp only [pendingPod, anchor, bind, Except.bind, anchorLabel]
  cases s.label? podLabel with
  | none => rfl
  | some pod => cases s.label? "condition" <;> rfl

end IdGenerator
end

theorem Fetcher.labelOf_of_all {metric label group id value : String} {groups : RawGroups}
    {raw : RawValue} (stored : groups.metric group id metric = .ok raw) (filled : raw.series ≠ [])
    (all : ∀ s ∈ raw.series, s.label? label = some value) :
    labelOf metric label group id groups = .ok value := by
  obtain ⟨s, rest, listed⟩ := List.exists_cons_of_ne_nil filled
  have labelled := all s (listed ▸ List.mem_cons_self)
  have first : firstSeries metric raw = .ok s := by
    unfold firstSeries
    rw [listed]
  simp only [labelOf, stored, bind, Except.bind, first, labelled]
  rfl

namespace TypeGenerator

theorem requiredLabel_eq_ok {metric label group id value : String} {groups : RawGroups}
    (h : requiredLabel metric label group id groups = .ok value) :
    value ≠ "" ∧ ∃ s, groups.Holds group id s ∧ s.label? label = some value := by
  obtain ⟨value', read, h⟩ := Except.bind_eq_ok h
  split at h
  · cases h
  · rename_i filled
    cases h
    exact ⟨by simpa using filled, Fetcher.labelOf_eq_ok read⟩

theorem requiredLabel_of_single {metric label group id value : String} {groups : RawGroups}
    {s : Series} (anchor : groups.metric group id metric = .ok (.single s))
    (h : requiredLabel metric label group id groups = .ok value) : s.label? label = some value := by
  obtain ⟨value', read, h⟩ := Except.bind_eq_ok h
  split at h
  · cases h
  · cases h
    exact Fetcher.labelOf_of_single anchor read

theorem fromLabels_of_single {metric group id cluster type : String} {groups : RawGroups}
    {s : Series} (anchor : groups.metric group id metric = .ok (.single s))
    (inside : isClusterWide group = false)
    (h : fromLabels metric group id groups cluster = .ok type) :
    ∃ ns, s.label? namespaceLabel = some ns ∧
      if group = containerLabel then ∃ pod, s.label? podLabel = some pod ∧
        type = cluster ++ ":" ++ ns ++ ":" ++ pod ++ ":" ++ group
      else type = cluster ++ ":" ++ ns ++ ":" ++ group := by
  unfold fromLabels at h
  rw [inside, if_neg (by simp)] at h
  obtain ⟨ns, readNs, h⟩ := Except.bind_eq_ok h
  refine ⟨ns, requiredLabel_of_single anchor readNs, ?_⟩
  split at h
  · rename_i container
    obtain ⟨pod, readPod, h⟩ := Except.bind_eq_ok h
    cases h
    rw [if_pos container]
    exact ⟨pod, requiredLabel_of_single anchor readPod, rfl⟩
  · rename_i other
    cases h
    rw [if_neg other]

theorem fromLabels_eq_ok {metric group id cluster type : String} {groups : RawGroups}
    (h : fromLabels metric group id groups cluster = .ok type) :
    if isClusterWide group then type = cluster ++ ":" ++ group
    else ∃ ns, ns ≠ "" ∧ (∃ s, groups.Holds group id s ∧ s.label? namespaceLabel = some ns) ∧
      if group = containerLabel then
        ∃ pod, type = cluster ++ ":" ++ ns ++ ":" ++ pod ++ ":" ++ group
      else type = cluster ++ ":" ++ ns ++ ":" ++ group := by
  unfold fromLabels at h
  split at h
  · rename_i wide
    cases h
    rw [if_pos wide]
  · rename_i wide
    rw [if_neg wide]
    obtain ⟨ns, read, h⟩ := Except.bind_eq_ok h
    obtain ⟨filled, labelled⟩ := requiredLabel_eq_ok read
    refine ⟨ns, filled, labelled, ?_⟩
    split at h
    · rename_i container
      obtain ⟨pod, _, h⟩ := Except.bind_eq_ok h
      cases h
      rw [if_pos container]
      exact ⟨pod, rfl⟩
    · rename_i other
      cases h
      rw [if_neg other]

end TypeGenerator

theorem NamespaceGetter.fromLabel_eq {group id ns : String} {groups : RawGroups} {s : Series}
    (held : groups.Holds group id s) (filled : ns ≠ "")
    (all : ∀ s, groups.Holds group id s → s.label? namespaceLabel = some ns) :
    fromLabel group id groups = ns := by
  obtain ⟨raw, there, inside⟩ := held
  have first : raw.series.findSome? (Fetcher.nonEmptyLabel? · namespaceLabel) = some ns := by
    cases listed : raw.series with
    | nil => simp [listed] at inside
    | cons s' rest =>
      have labelled := all s' ⟨raw, there, listed ▸ List.mem_cons_self⟩
      simp [Fetcher.nonEmptyLabel?_eq_some labelled filled]
  simp [fromLabel, there, first]

end KubeEntities
