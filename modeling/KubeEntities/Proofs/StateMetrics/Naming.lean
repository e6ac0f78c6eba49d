import KubeEntities.Proofs.Population.Separate
import KubeEntities.Proofs.StateMetrics.Placements

/-! Names and types tell objects apart. A type ends with the kind of the object; namespaces, nodes
and quotas are named by their raw IDs, and whatever else lives in a namespace takes its name and its
type from the labels of one series, of which its raw ID is made up as well. So a name and a type are
those of one raw entity (`NamedAs.unique`), and the entities of a cycle keep raw entities apart
(`separates_populationOf`). -/

namespace KubeEntities.StateMetrics

/-- No series has a namespace with the character in it that joins the parts of a type. -/
def HasPlainNamespaces (families : List Family) : Prop :=
  ∀ f ∈ families, ∀ s ∈ f.series, ∀ ns ∈ s.label? namespaceLabel, ':' ∉ ns.toList

instance (families : List Family) : Decidable (HasPlainNamespaces families) :=
  inferInstanceAs (Decidable (∀ f ∈ families, ∀ s ∈ f.series, ∀ ns ∈ s.label? _, ':' ∉ ns.toList))

def selfNamedKinds : List String := [namespaceLabel, nodeLabel, "resourcequota"]

structure NamedAs (cluster group id name type : String) : Prop where
  plain : ':' ∉ group.toList
  ends : ∃ start, type = start ++ (":" ++ group)
  identified :
    if group ∈ selfNamedKinds then id = name
    else if group = containerLabel then
      ∃ ns pod, ':' ∉ ns.toList ∧ id = ns ++ "_" ++ pod ++ "_" ++ name ∧
        type = cluster ++ ":" ++ ns ++ ":" ++ pod ++ ":" ++ group
    else ∃ ns, id = ns ++ "_" ++ name ∧ type = cluster ++ ":" ++ ns ++ ":" ++ group

theorem NamedAs.unique {cluster group group' id id' name type : String}
    (h : NamedAs cluster group id name type) (h' : NamedAs cluster group' id' name type) :
    group = group' ∧ id = id' := by
  obtain ⟨start, ends⟩ := h.ends
  obtain ⟨start', ends'⟩ := h'.ends
  obtain rfl := Text.eq_of_joined_last rfl h.plain h'.plain (ends.symm.trans ends')
  refine ⟨rfl, ?_⟩
  have made := h.identified
  have made' := h'.identified
  split at made
  · rename_i itself
    rw [if_pos itself] at made'
    rw [made, made']
  · rename_i other
    rw [if_neg other] at made'
    split at made
    · rename_i container
      rw [if_pos container] at made'
      obtain ⟨ns, pod, plain, rfl, typed⟩ := made
      obtain ⟨ns', pod', plain', rfl, typed'⟩ := made'
      have same := typed.symm.trans typed'
      simp only [String.append_assoc, String.append_right_inj] at same
      obtain rfl := Text.eq_of_joined rfl plain plain' same
      simp only [String.append_right_inj, String.append_left_inj] at same
      rw [same]
    · rename_i uncontained
      rw [if_neg uncontained] at made'
      obtain ⟨ns, rfl, typed⟩ := made
      obtain ⟨ns', rfl, typed'⟩ := made'
      have same := typed.symm.trans typed'
      simp only [String.append_right_inj, String.append_left_inj] at same
      rw [same]

/-- The series whose labels make up the type also names the entity, by the label of its kind. -/
def IsAnchored (group : String) (g : SpecGroup) : Prop :=
  g.split = none ∧ ∃ metric generate, g.type = .fromLabels metric ∧ g.id = some generate ∧
    ∀ id groups name, generate group id groups = .ok name →
      ∃ s, groups.metric group id metric = .ok (.single s) ∧ s.label? group = some name

theorem IsAnchored.of_fromLabel {group metric : String} {g : SpecGroup} (split : g.split = none)
    (type : g.type = .fromLabels metric) (id : g.id = some (.fromLabel metric group)) :
    IsAnchored group g :=
  ⟨split, metric, _, type, id, fun _ _ _ => IdGenerator.fromLabel_eq_ok⟩

theorem named_of_declared {group : String} {g : SpecGroup} (h : specs.find? group = some g) :
    if group ∈ selfNamedKinds then g.id = none ∨ g.split.isSome = true else IsAnchored group g := by
  refine forall_declared (P := fun group g => if group ∈ selfNamedKinds then
    g.id = none ∨ g.split.isSome = true else IsAnchored group g)
    ?namespaces ?nodes ?deployments ?pods ?containers ?services ?quotas h
  case namespaces => exact (if_pos (by decide)).mpr (.inl rfl)
  case nodes => exact (if_pos (by decide)).mpr (.inl rfl)
  case deployments => exact (if_neg (by decide)).mpr (.of_fromLabel rfl rfl rfl)
  case pods =>
    refine (if_neg (by decide)).mpr ⟨rfl, _, _, rfl, rfl, fun _ _ _ => ?_⟩
    exact IdGenerator.pendingPod_eq_ok
  case containers => exact (if_neg (by decide)).mpr (.of_fromLabel rfl rfl rfl)
  case services => exact (if_neg (by decide)).mpr (.of_fromLabel rfl rfl rfl)
  case quotas => exact (if_pos (by decide)).mpr (.inr rfl)

theorem rawEntityId?_inNamespace {group id ns name : String} {s : Series}
    (inside : isClusterWide group = false) (found : rawEntityId? group s = some id)
    (labelled : s.label? namespaceLabel = some ns) (named : s.label? group = some name) :
    if group = containerLabel then
      ∃ pod, s.label? podLabel = some pod ∧ id = ns ++ "_" ++ pod ++ "_" ++ name
    else id = ns ++ "_" ++ name := by
  by_cases container : group = containerLabel
  · subst container
    obtain ⟨other, pod, value, inside', ofPod, named', rfl⟩ :=
      rawEntityId?_container_eq_some_iff.1 found
    cases labelled.symm.trans inside'
    cases named.symm.trans named'
    rw [if_pos rfl]
    exact ⟨pod, ofPod, rfl⟩
  · rw [rawEntityId?_of_other inside container, named, Series.labelText_eq labelled] at found
    rw [if_neg container]
    exact (Option.some_inj.1 found).symm

variable {ctx : CycleContext} {families : List Family}

theorem exists_family_of_holds {group id : String} {s : Series}
    (h : (populationOf ctx families).groups.Holds group id s) :
    rawEntityId? group s = some id ∧ ∃ f ∈ families, s ∈ f.series := by
  obtain ⟨found, x, hx, rfl⟩ := RawGroups.holds_group h
  exact ⟨found, exists_family_of_mem_select hx⟩

theorem plain_of_declared {group : String} {g : SpecGroup} (h : specs.find? group = some g) :
    ':' ∉ group.toList := by
  have kinds : ∀ group ∈ namespaceLabel :: nodeLabel :: containerLabel :: namespacedKinds,
      ':' ∉ group.toList := by decide
  refine kinds group ?_
  rcases (isObjectKind_of_declared h).kind with wide | inside
  · have either : group = namespaceLabel ∨ group = nodeLabel := by simpa [isClusterWide] using wide
    rcases either with rfl | rfl <;> simp
  · exact List.mem_cons_of_mem _ (List.mem_cons_of_mem _ inside)

theorem exists_start_of_fromLabels {metric group id cluster type : String} {groups : RawGroups}
    (h : TypeGenerator.fromLabels metric group id groups cluster = .ok type) :
    ∃ start, type = start ++ (":" ++ group) := by
  have read := TypeGenerator.fromLabels_eq_ok h
  split at read
  · exact ⟨cluster, by rw [read, String.append_assoc]⟩
  · obtain ⟨ns, _, _, read⟩ := read
    split at read
    · obtain ⟨pod, read⟩ := read
      exact ⟨cluster ++ ":" ++ ns ++ ":" ++ pod, by rw [read, String.append_assoc]⟩
    · exact ⟨cluster ++ ":" ++ ns, by rw [read, String.append_assoc]⟩

theorem clusterEntityType_ne_of_declared {group start : String} {g : SpecGroup}
    (h : specs.find? group = some g) :
    PopulationRun.clusterEntityType ≠ start ++ (":" ++ group) := by
  refine clusterEntityType_ne (plain_of_declared h) ?_
  rintro rfl
  exact absurd (isObjectKind_of_declared h).kind (by decide)

section
variable {u : RawEntity} (visited : u ∈ (populationOf ctx families).rawEntities)
  {name type : String}
include visited

theorem ends_of_reported (h : (populationOf ctx families).ReportedAs u name type) :
    ∃ start, type = start ++ (":" ++ u.group) := by
  obtain ⟨x, hx, -, rfl⟩ := h
  obtain ⟨_, identity, resolved, _, type, _⟩ := PopulationRun.placesOn_contribution _ u hx
  obtain ⟨_, typed⟩ := PopulationRun.identity_eq_ok _ u resolved
  obtain ⟨metric, labels⟩ :=
    (isObjectKind_of_declared (PopulationRun.mem_rawEntities.1 visited).1).type
  exact type ▸ exists_start_of_fromLabels (labels ▸ typed)

/-- Only the types of containers can be read in two ways, if namespaces are not plain. -/
theorem namedAs_of_kind (plain : u.group = containerLabel → HasPlainNamespaces families)
    (h : (populationOf ctx families).ReportedAs u name type) :
    NamedAs ctx.cluster u.group u.id name type := by
  have ends := ends_of_reported visited h
  obtain ⟨x, hx, rfl, rfl⟩ := h
  obtain ⟨declared, _⟩ := PopulationRun.mem_rawEntities.1 visited
  obtain ⟨_, identity, resolved, name, type, _⟩ := PopulationRun.placesOn_contribution _ u hx
  obtain ⟨named, typed⟩ := PopulationRun.identity_eq_ok _ u resolved
  refine ⟨plain_of_declared declared, ends, ?_⟩
  rw [name, type]
  have way := named_of_declared declared
  split at way
  · rename_i itself
    rw [if_pos itself]
    unfold PopulationRun.entityName at named
    split at named
    · rename_i unsplit generated
      rcases way with unnamed | divided
      · cases unnamed.symm.trans generated
      · rw [unsplit] at divided
        cases divided
    · exact Except.ok.inj named
  · rename_i other
    rw [if_neg other]
    obtain ⟨unsplit, metric, generate, labels, generated, anchored⟩ := way
    rw [labels] at typed
    simp only [PopulationRun.entityName, unsplit, generated] at named
    obtain ⟨s, anchor, labelled⟩ := anchored _ _ _ named
    obtain ⟨found, f, hf, hs⟩ := exists_family_of_holds (RawGroups.holds_of_single anchor)
    have inside : isClusterWide u.group = false := by
      simp only [selfNamedKinds, List.mem_cons, not_or] at other
      simp [isClusterWide, other]
    obtain ⟨ns, labelledNs, read⟩ := TypeGenerator.fromLabels_of_single anchor inside typed
    have made := rawEntityId?_inNamespace inside found labelledNs labelled
    split at read
    · rename_i container
      rw [if_pos container] at made ⊢
      obtain ⟨pod, labelledPod, read⟩ := read
      obtain ⟨pod', labelledPod', made⟩ := made
      cases labelledPod.symm.trans labelledPod'
      exact ⟨ns, pod, plain container f hf s hs ns labelledNs, made, read⟩
    · rename_i uncontained
      rw [if_neg uncontained] at made ⊢
      exact ⟨ns, made, read⟩

theorem group_of_reported {start kind : String} (plain : ':' ∉ kind.toList)
    (h : (populationOf ctx families).ReportedAs u name (start ++ (":" ++ kind))) :
    u.group = kind := by
  obtain ⟨start', ends⟩ := ends_of_reported visited h
  have own := plain_of_declared (PopulationRun.mem_rawEntities.1 visited).1
  exact Text.eq_of_joined_last rfl own plain ends.symm

theorem eq_of_reported (plain : u.group = containerLabel → HasPlainNamespaces families)
    {v : RawEntity} (visited' : v ∈ (populationOf ctx families).rawEntities)
    (reported : (populationOf ctx families).ReportedAs u name type)
    (reported' : (populationOf ctx families).ReportedAs v name type) : u = v := by
  have kind : u.group = v.group := by
    obtain ⟨start, rfl⟩ := ends_of_reported visited' reported'
    have own := plain_of_declared (PopulationRun.mem_rawEntities.1 visited').1
    exact group_of_reported visited own reported
  obtain ⟨group, id⟩ := (namedAs_of_kind visited plain reported).unique
    (namedAs_of_kind visited' (fun container => plain (kind.trans container)) reported')
  obtain ⟨declared, there⟩ := PopulationRun.mem_rawEntities.1 visited
  obtain ⟨declared', there'⟩ := PopulationRun.mem_rawEntities.1 visited'
  rcases u with ⟨group, spec, id, raw⟩
  rcases v with ⟨group', spec', id', raw'⟩
  dsimp only at *
  subst group id
  cases declared.symm.trans declared'
  cases there.symm.trans there'
  rfl

end

theorem namedAs_of_reported (plain : HasPlainNamespaces families) {u : RawEntity}
    (visited : u ∈ (populationOf ctx families).rawEntities) {name type : String}
    (h : (populationOf ctx families).ReportedAs u name type) :
    NamedAs ctx.cluster u.group u.id name type :=
  namedAs_of_kind visited (fun _ => plain) h

theorem separates_populationOf (plain : HasPlainNamespaces families) :
    (populationOf ctx families).Separates where
  units := fun _ visited _ visited' _ _ => eq_of_reported visited (fun _ => plain) visited'
  cluster := by
    intro u visited name reported
    obtain ⟨start, ends⟩ := ends_of_reported visited reported
    exact clusterEntityType_ne_of_declared (PopulationRun.mem_rawEntities.1 visited).1 ends

theorem exists_unit_of_type {kind : String} {g : SpecGroup} (declared : specs.find? kind = some g)
    (plain : kind = containerLabel → HasPlainNamespaces families) {integration version : String}
    {e : Entity}
    (he : e ∈ ((populationOf ctx families).populate (.create integration version)).2.entities)
    {start : String} (ends : e.type = start ++ (":" ++ kind)) :
    ∃ u ∈ (populationOf ctx families).rawEntities, u.group = kind ∧ u.spec = g ∧
      NamedAs ctx.cluster kind u.id e.name e.type ∧
      (∃ x ∈ ((populationOf ctx families).fate u).emissions, x.identity.name = e.name ∧
        x.identity.type = e.type) ∧
      e.metricSets = ((populationOf ctx families).fate u).emissions.map
        fun x => (x.draft ctx.cluster).set := by
  have apart : e.type ≠ PopulationRun.clusterEntityType := fun same =>
    clusterEntityType_ne_of_declared declared (same.symm.trans ends)
  rcases PopulationRun.reportedAs_of_mem_populate he with ⟨u, visited, reported⟩ | ⟨_, cluster, _⟩
  · have group : u.group = kind :=
      group_of_reported visited (plain_of_declared declared) (ends ▸ reported)
    have spec := spec_of_visited visited group declared
    have unambiguous : u.group = containerLabel → HasPlainNamespaces families :=
      fun container => plain (group.symm.trans container)
    refine ⟨u, visited, group, spec, ?_, PopulationRun.reportedAs_iff.1 reported, ?_⟩
    · exact group ▸ namedAs_of_kind visited unambiguous reported
    · exact PopulationRun.metricSets_of_alone visited he apart reported fun v visited' reported' =>
        (eq_of_reported visited unambiguous visited' reported reported').symm
  · exact absurd cluster apart

end KubeEntities.StateMetrics
