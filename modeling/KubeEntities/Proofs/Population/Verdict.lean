import KubeEntities.Population

/-! The verdict of the namespace filter. The filter decides whether a raw entity is placed and how a
namespace is marked, and nothing else: whatever has no namespace is placed as without a filter
(`contribution_of_unplaced`), namespaces are placed whether or not they are refused, and the mark
of a namespace stays in its metric set as long as no metric has the name of the mark. -/

namespace KubeEntities

def Spec.Avoids (key : String) (s : Spec) : Prop :=
  ∀ group id groups found, s.fetch group id groups = .ok (some found) →
    ∀ w ∈ s.writes found, w.name ≠ key

theorem MetricSet.find?_set {m m' : MetricSet} {name : String} {value : Fetched} {type : SourceType}
    (h : m.set name value type = .ok m') {key : String} (other : name ≠ key) :
    m'.find? key = m.find? key := by
  unfold MetricSet.set at h
  split at h
  · cases h
  · split at h
    · cases h
    · cases h
      rw [SortedMap.find?_insert, if_neg (Ne.symm other)]

namespace Draft
variable {group id key : String}

theorem find?_write (d : Draft) {w : Write} (other : w.name ≠ key) :
    (d.write group id w).set.find? key = d.set.find? key := by
  unfold Draft.write
  split
  · rename_i written
    exact MetricSet.find?_set written other
  · rfl

theorem find?_foldl_write {writes : List Write} (others : ∀ w ∈ writes, w.name ≠ key) (d : Draft) :
    (writes.foldl (Draft.write group id) d).set.find? key = d.set.find? key := by
  induction writes generalizing d with
  | nil => rfl
  | cons w writes ih =>
    have rest := ih (fun w hw => others w (List.mem_cons_of_mem _ hw)) (d.write group id w)
    exact rest.trans (d.find?_write (others w List.mem_cons_self))

theorem find?_fill (groups : RawGroups) {s : Spec} (avoids : s.Avoids key) (d : Draft) :
    (d.fill groups group id s).set.find? key = d.set.find? key := by
  unfold Draft.fill
  split
  · rfl
  · rename_i found fetched
    exact find?_foldl_write (avoids group id groups found fetched) d
  · split <;> rfl

theorem find?_foldl_fill (groups : RawGroups) {specs : List Spec}
    (avoid : ∀ s ∈ specs, s.Avoids key) (d : Draft) :
    (specs.foldl (Draft.fill groups group id) d).set.find? key = d.set.find? key := by
  induction specs generalizing d with
  | nil => rfl
  | cons s specs ih =>
    have rest := ih (fun s hs => avoid s (List.mem_cons_of_mem _ hs)) (d.fill groups group id s)
    exact rest.trans (find?_fill groups (avoid s List.mem_cons_self) d)

theorem mark_eq (d : Draft) (filtered : Bool) :
    d.mark group id filtered =
      { d with set := d.set.insert filteredAttribute (.text (toString filtered)) } := by
  have stored : MetricSet.stored? .attr (.flag filtered) = some (.text (toString filtered)) := rfl
  have named : filteredAttribute.isEmpty = false := by decide
  simp [mark, MetricSet.set, stored, named]

theorem find?_mark (d : Draft) (filtered : Bool) :
    (d.mark group id filtered).set.find? filteredAttribute = some (.text (toString filtered)) := by
  simp [mark_eq, SortedMap.find?_insert]

end Draft

namespace PopulationRun
variable (run : PopulationRun) (e : RawEntity) (identity : Identity) (groups : RawGroups)

def filledSet (eventType : String) : MetricSet :=
  let attributes := [("displayName", identity.name), ("clusterName", run.cluster)]
  let blank : Draft := ⟨.create eventType attributes, 0, []⟩
  let marked := identity.filtered.elim blank (blank.mark e.group e.id)
  (e.spec.specs.foldl (Draft.fill groups e.group e.id) marked).set

def placement? : Option Placement :=
  match (e.spec.guesser.getD run.guesser) e.group with
  | .error _ => none
  | .ok eventType =>
    if identity.name.isEmpty then none
    else some {
      name := identity.name
      type := identity.type
      set := run.filledSet e identity groups eventType }

theorem placements_setContribution :
    (run.setContribution e identity groups).placements =
      (run.placement? e identity groups).toList := by
  unfold setContribution placement?
  cases (e.spec.guesser.getD run.guesser) e.group with
  | error cause => rfl
  | ok eventType =>
    cases blank : identity.name.isEmpty with
    | true => simp [Contribution.failed]
    | false => simp [Draft.contribution, filledSet]

theorem isSome_placement? (filter : Option (String → Bool)) (verdict : Option Bool) :
    ({ run with filter }.placement? e { identity with filtered := verdict } groups).isSome =
      (run.placement? e identity groups).isSome := by
  simp only [placement?]
  cases (e.spec.guesser.getD run.guesser) e.group with
  | error cause => rfl
  | ok eventType => cases identity.name.isEmpty <;> rfl

theorem key_of_placement? {x : Placement} (h : run.placement? e identity groups = some x) :
    x.name = identity.name ∧ x.type = identity.type ∧ x.items = [] ∧ identity.name ≠ "" := by
  unfold placement? at h
  split at h
  · cases h
  · split at h
    · cases h
    · rename_i named
      cases h
      exact ⟨rfl, rfl, rfl, by simpa using named⟩

theorem find?_placement? {x : Placement} {filtered : Bool}
    (marked : identity.filtered = some filtered)
    (avoid : ∀ s ∈ e.spec.specs, s.Avoids Draft.filteredAttribute)
    (h : run.placement? e identity groups = some x) :
    x.set.find? Draft.filteredAttribute = some (.text (toString filtered)) := by
  unfold placement? at h
  split at h
  · cases h
  · split at h
    · cases h
    · cases h
      simp only [filledSet, marked, Option.elim]
      rw [Draft.find?_foldl_fill groups avoid, Draft.find?_mark]

theorem contribution_of_namespace (kind : e.group = namespaceLabel) :
    run.contribution e = run.admittedContribution e := by
  unfold contribution
  split
  · rw [if_pos kind]
  · rfl

theorem contribution_of_unplaced (unplaced : e.spec.namespaceOf = none)
    (filter : Option (String → Bool)) :
    { run with filter }.contribution e = run.contribution e := by
  have allowed (run : PopulationRun) : run.refusedNamespace? e = none := by
    simp only [refusedNamespace?, unplaced]
  have free (run : PopulationRun) : run.isSubjectToFilter e = false := by
    simp [isSubjectToFilter, unplaced]
  have identified : { run with filter }.identity e = run.identity e := by
    simp only [identity, free, Bool.and_false]
    rfl
  simp only [contribution, allowed, admittedContribution, identified]
  rfl

end PopulationRun
end KubeEntities
