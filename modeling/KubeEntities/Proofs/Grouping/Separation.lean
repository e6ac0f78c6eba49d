import KubeEntities.Grouping
import KubeEntities.Proofs.Text.Joined

/-! Raw IDs tell objects apart. A raw ID is made of the identity labels of its group
(`rawEntityId?_eq`). Where no label but the last holds the character that joins them, they can be
read back from it (`rawEntityId?_eq_some_iff`), so two series share a raw ID exactly if they agree on
these labels. -/

namespace KubeEntities

/-- The labels that identify the entities of a group, in the order in which its raw IDs have them. -/
def identityLabels (group : String) : List String :=
  if isClusterWide group then [group]
  else if group = containerLabel then [namespaceLabel, podLabel, containerLabel]
  else [namespaceLabel, group]

def requiredLabels (group : String) : List String :=
  if group = containerLabel then identityLabels group else [group]

theorem identityLabels_of_clusterWide {group : String} (wide : isClusterWide group = true) :
    identityLabels group = [group] := if_pos wide

theorem identityLabels_container :
    identityLabels containerLabel = [namespaceLabel, podLabel, containerLabel] := by decide

theorem identityLabels_of_other {group : String} (wide : isClusterWide group = false)
    (other : group ≠ containerLabel) : identityLabels group = [namespaceLabel, group] := by
  rw [identityLabels, if_neg (by simp [wide]), if_neg other]

theorem requiredLabels_of_ne {group : String} (other : group ≠ containerLabel) :
    requiredLabels group = [group] := if_neg other

namespace Series

/-- The text of a label; one that is missing counts as empty. -/
def labelText (s : Series) (label : String) : String := (s.label? label).getD ""

def Carries (s : Series) (labels : List String) : Prop :=
  ∀ label ∈ labels, (s.label? label).isSome

instance (s : Series) (labels : List String) : Decidable (s.Carries labels) :=
  inferInstanceAs (Decidable (∀ label ∈ labels, (s.label? label).isSome))

@[simp] theorem carries_nil (s : Series) : s.Carries [] :=
  fun _ inside => absurd inside List.not_mem_nil

@[simp] theorem carries_cons (s : Series) (label : String) (labels : List String) :
    s.Carries (label :: labels) ↔ (s.label? label).isSome ∧ s.Carries labels :=
  List.forall_mem_cons

/-- No identity label before the last holds the joint of raw IDs. Only namespaces, and the pods of
containers, stand before the last. -/
def IsSeparable (s : Series) (group : String) : Prop :=
  ∀ label ∈ (identityLabels group).dropLast, '_' ∉ (s.labelText label).toList

instance (s : Series) (group : String) : Decidable (s.IsSeparable group) :=
  inferInstanceAs (Decidable (∀ label ∈ (identityLabels group).dropLast, _))

variable {s : Series}

theorem labelText_eq {label value : String} (labelled : s.label? label = some value) :
    s.labelText label = value := by
  rw [labelText, labelled, Option.getD_some]

theorem labelText_eq_iff {label value : String} (filled : value ≠ "") :
    s.labelText label = value ↔ s.label? label = some value := by
  refine ⟨fun same => ?_, labelText_eq⟩
  cases labelled : s.label? label with
  | none =>
    rw [labelText, labelled] at same
    exact absurd same.symm filled
  | some other => rw [← same, labelText_eq labelled]

theorem notMem_labelText {label : String} {mark : Char}
    (names : ∀ name ∈ s.label? label, mark ∉ name.toList) : mark ∉ (s.labelText label).toList := by
  cases labelled : s.label? label with
  | none => simp [labelText, labelled]
  | some name => exact labelText_eq labelled ▸ names name labelled

theorem IsSeparable.of_names (names : ∀ label ∈ [namespaceLabel, podLabel],
    ∀ name ∈ s.label? label, '_' ∉ name.toList) (group : String) : s.IsSeparable group := by
  have early : ∀ label ∈ (identityLabels group).dropLast, label ∈ [namespaceLabel, podLabel] := by
    unfold identityLabels
    split
    · simp
    · split <;> simp
  exact fun label before => notMem_labelText (names label (early label before))

theorem IsSeparable.notMem_parts {group : String} (separable : s.IsSeparable group) :
    ∀ part ∈ ((identityLabels group).map s.labelText).dropLast, '_' ∉ part.toList := by
  rw [← List.map_dropLast]
  exact List.forall_mem_map.2 separable

end Series

theorem rawEntityId?_eq (group : String) (s : Series) :
    rawEntityId? group s = if s.Carries (requiredLabels group) then
      some ("_".intercalate ((identityLabels group).map s.labelText)) else none := by
  by_cases contained : group = containerLabel
  · subst contained
    have inner : isClusterWide containerLabel = false := by decide
    rw [requiredLabels, if_pos rfl, identityLabels_container]
    unfold rawEntityId?
    cases named : s.label? containerLabel <;> cases inside : s.label? namespaceLabel <;>
      cases ofPod : s.label? podLabel <;>
      simp [Series.labelText, named, inside, ofPod, inner, String.append_assoc]
  · rw [requiredLabels_of_ne contained]
    unfold rawEntityId?
    cases named : s.label? group with
    | none => simp [named]
    | some value =>
      cases wide : isClusterWide group with
      | true => simp [Series.labelText, named, identityLabels_of_clusterWide wide]
      | false =>
        simp [Series.labelText, named, contained, identityLabels_of_other wide contained]

theorem isSome_rawEntityId?_iff {group : String} {s : Series} :
    (rawEntityId? group s).isSome ↔ s.Carries (requiredLabels group) := by
  rw [rawEntityId?_eq]
  split <;> simp [*]

section
variable {group : String} {s : Series}

theorem rawEntityId?_of_clusterWide (wide : isClusterWide group = true) (s : Series) :
    rawEntityId? group s = s.label? group := by
  have other : group ≠ containerLabel := by
    rintro rfl
    exact absurd wide (by decide)
  rw [rawEntityId?_eq, requiredLabels_of_ne other, identityLabels_of_clusterWide wide]
  cases named : s.label? group <;> simp [Series.labelText, named]

theorem rawEntityId?_container_eq_some_iff {id : String} :
    rawEntityId? containerLabel s = some id ↔
      ∃ ns pod name, s.label? namespaceLabel = some ns ∧ s.label? podLabel = some pod ∧
        s.label? containerLabel = some name ∧ id = ns ++ "_" ++ pod ++ "_" ++ name := by
  rw [rawEntityId?_eq, requiredLabels, if_pos rfl, identityLabels_container]
  cases named : s.label? containerLabel <;> cases inside : s.label? namespaceLabel <;>
    cases ofPod : s.label? podLabel <;>
    simp [Series.labelText, named, inside, ofPod, String.append_assoc, eq_comm]

theorem rawEntityId?_of_other (wide : isClusterWide group = false) (other : group ≠ containerLabel)
    (s : Series) : rawEntityId? group s =
      (s.label? group).map fun name => s.labelText namespaceLabel ++ "_" ++ name := by
  rw [rawEntityId?_eq, requiredLabels_of_ne other, identityLabels_of_other wide other]
  cases named : s.label? group <;> simp [Series.labelText, named]

end

/-- The parts of a raw ID are read back from it. -/
theorem rawEntityId?_eq_some_iff {group : String} {s : Series} (parts : List String)
    (complete : parts.length = (identityLabels group).length) (separable : s.IsSeparable group)
    (plain : ∀ part ∈ parts.dropLast, '_' ∉ part.toList) :
    rawEntityId? group s = some ("_".intercalate parts) ↔
      s.Carries (requiredLabels group) ∧ (identityLabels group).map s.labelText = parts := by
  rw [rawEntityId?_eq]
  split
  · rename_i carried
    rw [Option.some_inj, and_iff_right carried]
    exact Text.intercalate_inj rfl (by simp [complete]) separable.notMem_parts plain
  · rename_i lacking
    simp [lacking]

/-- The series of a group are those that carry its required labels, and two of them share a raw ID
exactly if they agree on the identity labels. It is enough for that if names of namespaces and pods
do without the joint (`IsSeparable.of_names`); the last label may hold anything. -/
theorem rawEntityId?_separates (group : String) :
    (∀ s, (rawEntityId? group s).isSome ↔ s.Carries (requiredLabels group)) ∧
    ∀ a b : Series, (rawEntityId? group a).isSome → (rawEntityId? group b).isSome →
      a.IsSeparable group → b.IsSeparable group →
      (rawEntityId? group a = rawEntityId? group b ↔
        ∀ label ∈ identityLabels group, a.labelText label = b.labelText label) := by
  refine ⟨fun s => isSome_rawEntityId?_iff, fun a b inA inB separableA separableB => ?_⟩
  have carriedA := isSome_rawEntityId?_iff.1 inA
  have carriedB := isSome_rawEntityId?_iff.1 inB
  rw [rawEntityId?_eq group b, if_pos carriedB,
    rawEntityId?_eq_some_iff _ (List.length_map _) separableA separableB.notMem_parts,
    and_iff_right carriedA, List.map_inj_left]

/-- A missing namespace is as good as an empty one, and what looks like a namespace in a name is
not taken for one. -/
theorem rawEntityId?_separates_nowhere :
    let missing : Series := ⟨.ofList [("deployment", "api_v2")], .gauge (.ofInt 1)⟩
    let blank : Series := ⟨.ofList [("deployment", "api_v2"), ("namespace", "")], .absent⟩
    let inside : Series := ⟨.ofList [("deployment", "v2"), ("namespace", "api")], .gauge (.ofInt 1)⟩
    (∀ s ∈ [missing, blank, inside],
      (rawEntityId? "deployment" s).isSome ∧ s.IsSeparable "deployment") ∧
    rawEntityId? "deployment" missing = rawEntityId? "deployment" blank ∧
    rawEntityId? "deployment" missing ≠ rawEntityId? "deployment" inside := by
  intro missing blank inside
  have members : ∀ s ∈ [missing, blank, inside],
      (rawEntityId? "deployment" s).isSome ∧ s.IsSeparable "deployment" := by decide +kernel
  have apart : ∀ s ∈ [blank, inside], rawEntityId? "deployment" missing =
      rawEntityId? "deployment" s ↔ ∀ label ∈ identityLabels "deployment",
        missing.labelText label = s.labelText label := by
    intro s hs
    obtain ⟨inMissing, separable⟩ := members missing List.mem_cons_self
    obtain ⟨inS, separableS⟩ := members s (List.mem_cons_of_mem _ hs)
    exact (rawEntityId?_separates "deployment").2 missing s inMissing inS separable separableS
  refine ⟨members, (apart blank (by simp)).2 (by decide +kernel), ?_⟩
  exact mt (apart inside (by simp)).1 (by decide +kernel)

/-- With the joint in its name, a namespace runs into what comes after it. -/
example :
    rawEntityId? "pod" ⟨.ofList [("namespace", "web"), ("pod", "shop_front")], .absent⟩ =
      rawEntityId? "pod" ⟨.ofList [("namespace", "web_shop"), ("pod", "front")], .absent⟩ := by
  decide +kernel

end KubeEntities
