import KubeEntities.Cycle
import KubeEntities.Proofs.Grouping.Stored

/-! Families come in any order. Selecting, grouping and hence a whole cycle give the same for two
lists of families that differ only in how families of different names are interleaved
(`cycle_reordered`). -/

namespace KubeEntities

/-- The same families, those of one name in the same order. -/
structure Reordered (a b : List Family) : Prop where
  perm : a.Perm b
  order : ∀ name, a.filter (·.name == name) = b.filter (·.name == name)

theorem Reordered.swap {f g : Family} (apart : f.name ≠ g.name) (families : List Family) :
    Reordered (f :: g :: families) (g :: f :: families) where
  perm := .swap g f families
  order name := by
    by_cases named : f.name = name
    · have other : g.name ≠ name := fun same => apart (named.trans same.symm)
      simp [named, other]
    · simp [List.filter_cons, named]

variable {a b : List Family}

namespace Query

theorem filterMap_run (q : Query) (families : List Family) :
    families.filterMap q.run = (families.filter (·.name == q.metric)).filterMap q.run := by
  rw [List.filterMap_filter]
  congr 1
  funext f
  by_cases named : f.name = q.metric
  · simp [named]
  · simp [run, named]

end Query

theorem select_reordered {queries : List Query} (h : Reordered a b)
    (asked : queries.isEmpty = false) : select queries a = select queries b := by
  simp only [select, asked, Bool.false_eq_true, if_false]
  congr 1
  funext q
  rw [q.filterMap_run a, q.filterMap_run b, h.order]

theorem seriesOf_reordered (h : Reordered a b) (group id metric : String) :
    seriesOf a group id metric = seriesOf b group id metric := by
  rw [seriesOf, seriesOf, h.order]

theorem rawOf?_reordered (h : Reordered a b) (sliceMetric : Option String) (group id : String) :
    rawOf? sliceMetric ((namedSeries a).filter (·.isOf group id)) =
      rawOf? sliceMetric ((namedSeries b).filter (·.isOf group id)) := by
  have same : ((namedSeries a).filter (·.isOf group id)).Perm
      ((namedSeries b).filter (·.isOf group id)) := (h.perm.flatMap_right _).filter _
  unfold rawOf?
  rw [same.isEmpty_eq]
  split
  · rfl
  · congr 1
    refine SortedMap.ext_find? fun metric => ?_
    rw [RawMetrics.find?_foldl_add_empty, RawMetrics.find?_foldl_add_empty,
      seriesNamed_filter_isOf, seriesNamed_filter_isOf, seriesOf_reordered h]

theorem groupEntities_reordered (h : Reordered a b) (group : String)
    (sliceMetric : Option String) :
    groupEntities group sliceMetric a = groupEntities group sliceMetric b := by
  refine SortedMap.ext_find? fun id => ?_
  rw [find?_groupEntities, find?_groupEntities, rawOf?_reordered h]

theorem SpecTable.group_reordered (h : Reordered a b) (table : SpecTable) :
    table.group a = table.group b := by
  simp only [SpecTable.group, groupFamilies, groupEntities_reordered h]

theorem SpecTable.group_select_reordered (h : Reordered a b) (table : SpecTable)
    (queries : List Query) :
    table.group (select queries a) = table.group (select queries b) := by
  cases asked : queries.isEmpty with
  | true => simpa [select, asked] using table.group_reordered h
  | false => rw [select_reordered h asked]

theorem length_select_reordered (h : Reordered a b) (queries : List Query) :
    (select queries a).length = (select queries b).length := by
  cases asked : queries.isEmpty with
  | true => simpa [select, asked] using h.perm.length_eq
  | false => rw [select_reordered h asked]

/-- Report, payload, log and counts of a cycle do not depend on how families of different names
are interleaved. -/
theorem DataSource.cycle_reordered (h : Reordered a b) (source : DataSource) (ctx : CycleContext)
    (payload : Payload) :
    source.cycle ctx a payload = source.cycle ctx b payload := by
  simp only [DataSource.cycle, source.specs.group_select_reordered h, h.perm.length_eq,
    length_select_reordered h]

theorem DataSource.cycle_reordered_pod :
    let info (node : String) : Family := ⟨"kube_pod_info", .gauge, [
      ⟨.ofList [("namespace", "web"), ("node", node), ("pod", "shop")], .gauge (.ofInt 1)⟩]⟩
    let phase : Family := ⟨"kube_pod_status_phase", .gauge, [
      ⟨.ofList [("namespace", "web"), ("phase", "Running"), ("pod", "shop")], .gauge (.ofInt 1)⟩]⟩
    let source : DataSource := {
      name := "ksm"
      queries := []
      specs := .singleton "pod" {
        specs := [⟨"node", .fromLabel "kube_pod_info" "node", .attr, false⟩]
        type := .fromLabels "kube_pod_info" } }
    let ctx : CycleContext := { cluster := "c", k8sVersion := "1.30" }
    let a := [phase, info "n1", info "n2"]
    let b := [info "n1", phase, info "n2"]
    Reordered a b ∧ (source.cycle ctx a (.create "ksm" "1")).report.populated = true ∧
      source.cycle ctx a (.create "ksm" "1") = source.cycle ctx b (.create "ksm" "1") := by
  intro info phase source ctx a b
  have moved : Reordered a b := .swap (by decide) _
  exact ⟨moved, by decide +kernel, source.cycle_reordered moved ctx (.create "ksm" "1")⟩

end KubeEntities
