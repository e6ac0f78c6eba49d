import KubeEntities.Proofs.Population.Separate
import KubeEntities.Proofs.Population.Visit

/-! The namespace filter only selects. It keeps raw entities out and marks namespaces, and a run
with a filter is a run without one over the raw entities that are left, as far as its outcome does
not tell the marks (`populate_filtered`). A mark is no metric: a draft with it and a draft without
it take, count and report the same (`SameButMark`). -/

namespace KubeEntities

namespace MetricSet

def unmarked (m : MetricSet) : MetricSet := m.filter fun key _ => key != Draft.filteredAttribute

theorem find?_unmarked (m : MetricSet) (key : String) :
    m.unmarked.find? key = if key = Draft.filteredAttribute then none else m.find? key := by
  rw [unmarked, SortedMap.find?_filter]
  by_cases mark : key = Draft.filteredAttribute
  · cases m.find? key <;> simp [mark]
  · cases m.find? key <;> simp [mark]

theorem unmarked_insert (m : MetricSet) (key : String) (stored : Stored) :
    MetricSet.unmarked (m.insert key stored) =
      if key = Draft.filteredAttribute then m.unmarked else m.unmarked.insert key stored := by
  refine SortedMap.ext_find? fun other => ?_
  rw [find?_unmarked, SortedMap.find?_insert]
  by_cases mark : key = Draft.filteredAttribute
  · rw [if_pos mark, find?_unmarked, mark]
    split <;> rfl
  · rw [if_neg mark, SortedMap.find?_insert, find?_unmarked]
    by_cases same : other = key
    · simp [same, mark]
    · simp [same]

end MetricSet

def Entity.unmarked (e : Entity) : Entity :=
  { e with metricSets := e.metricSets.map MetricSet.unmarked }

def Payload.unmarked (p : Payload) : Payload :=
  { p with entities := p.entities.map Entity.unmarked }

def Placement.unmarked (x : Placement) : Placement := { x with set := x.set.unmarked }

def Contribution.unmarked (c : Contribution) : Contribution :=
  { c with placements := c.placements.map Placement.unmarked }

namespace Payload

theorem unmarked_fill (x : Placement) (e : Entity) :
    (x.fill e).unmarked = x.unmarked.fill e.unmarked := by
  simp only [Placement.fill_eq, Entity.unmarked, List.map_append]
  rfl

theorem map_unmarked_updateEntities (x : Placement) (es : List Entity) :
    (updateEntities x.name x.type x.fill es).map Entity.unmarked =
      updateEntities x.name x.type x.unmarked.fill (es.map Entity.unmarked) := by
  induction es with
  | nil =>
    have created := unmarked_fill x (.create x.name x.type)
    exact congrArg (fun e => [e]) created
  | cons e rest ih =>
    have itself : e.unmarked.is x.name x.type = e.is x.name x.type := rfl
    rw [updateEntities, List.map_cons, updateEntities, itself]
    split
    · rw [List.map_cons, unmarked_fill]
    · rw [List.map_cons, ih]

theorem unmarked_place (p : Payload) (x : Placement) :
    (p.place x).unmarked = p.unmarked.place x.unmarked := by
  simp only [place_eq, unmarked, map_unmarked_updateEntities]
  rfl

theorem unmarked_foldl_place (l : List Placement) (p : Payload) :
    (l.foldl place p).unmarked = (l.map Placement.unmarked).foldl place p.unmarked := by
  induction l generalizing p with
  | nil => rfl
  | cons x l ih => rw [List.foldl_cons, ih, unmarked_place, List.map_cons, List.foldl_cons]

end Payload

namespace Draft

structure SameButMark (c d : Draft) : Prop where
  set : c.set.unmarked = d.set.unmarked
  written : c.written = d.written
  errors : c.errors = d.errors

variable {c d : Draft} (group id : String)

theorem sameButMark_elim_mark (blank : Draft) (verdict verdict' : Option Bool) :
    (verdict.elim blank (blank.mark group id)).SameButMark
      (verdict'.elim blank (blank.mark group id)) := by
  have set (verdict : Option Bool) :
      (verdict.elim blank (blank.mark group id)).set.unmarked = blank.set.unmarked := by
    cases verdict with
    | none => rfl
    | some filtered => rw [Option.elim, mark_eq, MetricSet.unmarked_insert, if_pos rfl]
  have written (verdict : Option Bool) :
      (verdict.elim blank (blank.mark group id)).written = blank.written := by
    cases verdict <;> simp [mark_eq]
  have errors (verdict : Option Bool) :
      (verdict.elim blank (blank.mark group id)).errors = blank.errors := by
    cases verdict <;> simp [mark_eq]
  exact ⟨(set verdict).trans (set verdict').symm, (written verdict).trans (written verdict').symm,
    (errors verdict).trans (errors verdict').symm⟩

namespace SameButMark

theorem fail (h : c.SameButMark d) (metric : String) (cause : Cause) :
    (c.fail group id metric cause).SameButMark (d.fail group id metric cause) where
  set := h.set
  written := h.written
  errors := congrArg (· ++ _) h.errors

theorem write (h : c.SameButMark d) (w : Write) :
    (c.write group id w).SameButMark (d.write group id w) := by
  unfold Draft.write MetricSet.set
  cases w.name.isEmpty with
  | true => exact h.fail group id w.name _
  | false =>
    cases MetricSet.stored? w.type w.value with
    | none => exact h.fail group id w.name _
    | some stored =>
      refine ⟨?_, congrArg (· + 1) h.written, h.errors⟩
      change MetricSet.unmarked (c.set.insert w.name stored) =
        MetricSet.unmarked (d.set.insert w.name stored)
      rw [MetricSet.unmarked_insert, MetricSet.unmarked_insert, h.set]

theorem foldl_write (h : c.SameButMark d) (writes : List Write) :
    (writes.foldl (Draft.write group id) c).SameButMark
      (writes.foldl (Draft.write group id) d) := by
  induction writes generalizing c d with
  | nil => exact h
  | cons w writes ih => exact ih (h.write group id w)

theorem fill (h : c.SameButMark d) (groups : RawGroups) (s : Spec) :
    (c.fill groups group id s).SameButMark (d.fill groups group id s) := by
  unfold Draft.fill
  cases s.fetch group id groups with
  | error cause =>
    cases s.isOptional with
    | true => exact h
    | false => exact h.fail group id s.name _
  | ok found =>
    cases found with
    | none => exact h
    | some found => exact h.foldl_write group id (s.writes found)

theorem foldl_fill (h : c.SameButMark d) (groups : RawGroups) (specs : List Spec) :
    (specs.foldl (Draft.fill groups group id) c).SameButMark
      (specs.foldl (Draft.fill groups group id) d) := by
  induction specs generalizing c d with
  | nil => exact h
  | cons s specs ih => exact ih (h.fill group id groups s)

theorem contribution (h : c.SameButMark d) (name type : String) :
    (c.contribution name type).unmarked = (d.contribution name type).unmarked := by
  simp [Draft.contribution, Contribution.unmarked, Placement.unmarked, h.set, h.written, h.errors]

end SameButMark
end Draft

namespace Contribution

theorem unmarked_join_congr {α : Type} (l : List α) {f g : α → Contribution}
    (each : ∀ a ∈ l, (f a).unmarked = (g a).unmarked) :
    (join (l.map f)).unmarked = (join (l.map g)).unmarked := by
  induction l with
  | nil => rfl
  | cons a l ih =>
    have first := each a List.mem_cons_self
    have rest := ih fun a ha => each a (List.mem_cons_of_mem _ ha)
    simp only [unmarked, mk.injEq] at first rest ⊢
    obtain ⟨incidents, placements, written⟩ := first
    obtain ⟨incidents', placements', written'⟩ := rest
    refine ⟨?_, ?_, ?_⟩
    · exact congrArg₂ (· ++ ·) incidents incidents'
    · have split (f : α → Contribution) : (join ((a :: l).map f)).placements =
          (f a).placements ++ (join (l.map f)).placements := rfl
      rw [split, split, List.map_append, List.map_append, placements, placements']
    · exact congrArg₂ (· + ·) written written'

end Contribution

namespace PopulationRun
variable (run : PopulationRun) (e : RawEntity)

/-- The filter keeps out what is no namespace itself and lives in a namespace that it refuses; where
nothing tells the namespace it has no say. -/
def keepsOut (allows : String → Bool) : Bool :=
  e.group != namespaceLabel &&
    e.spec.namespaceOf.any fun namespaceOf => !allows (namespaceOf e.group e.id run.groups)

def mark? (filter : Option (String → Bool)) : Option Bool :=
  if e.group = namespaceLabel && { run with filter }.isSubjectToFilter e then
    some ({ run with filter }.refusedNamespace? e).isSome
  else none

theorem identity_filter (filter : Option (String → Bool)) :
    { run with filter }.identity e =
      ({ run with filter := none }.identity e).map fun (identity : Identity) =>
        { identity with filtered := run.mark? e filter } := by
  have name : { run with filter }.entityName e = run.entityName e := rfl
  have name' : { run with filter := none }.entityName e = run.entityName e := rfl
  unfold identity
  rw [name, name']
  cases run.entityName e with
  | error cause => rfl
  | ok name =>
    dsimp only
    cases e.spec.type e.group e.id run.groups run.cluster <;> rfl

theorem unmarked_setContribution (identity : Identity) (verdict : Option Bool)
    (groups : RawGroups) :
    (run.setContribution e { identity with filtered := verdict } groups).unmarked =
      (run.setContribution e identity groups).unmarked := by
  unfold setContribution
  dsimp only
  cases (e.spec.guesser.getD run.guesser) e.group with
  | error cause => rfl
  | ok eventType =>
    dsimp only
    cases identity.name.isEmpty with
    | true => rfl
    | false =>
      have marked := Draft.sameButMark_elim_mark e.group e.id
        ⟨.create eventType [("displayName", identity.name), ("clusterName", run.cluster)], 0, []⟩
        verdict identity.filtered
      exact (marked.foldl_fill e.group e.id groups e.spec.specs).contribution _ _

theorem unmarked_admittedContribution (filter : Option (String → Bool)) :
    ({ run with filter }.admittedContribution e).unmarked =
      ({ run with filter := none }.admittedContribution e).unmarked := by
  unfold admittedContribution
  rw [identity_filter]
  cases ({ run with filter := none }.identity e) with
  | error cause => rfl
  | ok identity =>
    have each (groups : RawGroups) :=
      run.unmarked_setContribution e identity (run.mark? e filter) groups
    dsimp only [Except.map]
    cases e.spec.split with
    | none => exact each run.groups
    | some split =>
      dsimp only
      cases e.raw.split (split.sliceMetric e.group) split.label with
      | error cause => rfl
      | ok parts => exact Contribution.unmarked_join_congr parts.values fun part _ => each _

theorem contribution_free :
    { run with filter := none }.contribution e =
      { run with filter := none }.admittedContribution e := by
  have free : { run with filter := none }.refusedNamespace? e = none := by
    unfold refusedNamespace?
    cases e.spec.namespaceOf <;> rfl
  rw [contribution, free]

theorem contribution_of_keepsOut {allows : String → Bool} (out : run.keepsOut e allows = true) :
    ∃ ns, { run with filter := some allows }.contribution e =
      ⟨[.filtered e.group e.id ns], [], 0⟩ := by
  obtain ⟨other, refused⟩ := Bool.and_eq_true_iff.1 out
  have elsewhere : e.group ≠ namespaceLabel := by simpa using other
  cases placed : e.spec.namespaceOf with
  | none => simp [placed] at refused
  | some namespaceOf =>
    have verdict : allows (namespaceOf e.group e.id run.groups) = false := by
      simpa [placed] using refused
    refine ⟨namespaceOf e.group e.id run.groups, ?_⟩
    simp [contribution, refusedNamespace?, placed, verdict, elsewhere]

theorem contribution_of_passed {allows : String → Bool} (left : run.keepsOut e allows = false) :
    { run with filter := some allows }.contribution e =
      { run with filter := some allows }.admittedContribution e := by
  by_cases kind : e.group = namespaceLabel
  · exact contribution_of_namespace _ _ kind
  · have passed : { run with filter := some allows }.refusedNamespace? e = none := by
      cases placed : e.spec.namespaceOf with
      | none => simp [refusedNamespace?, placed]
      | some namespaceOf =>
        have verdict : allows (namespaceOf e.group e.id run.groups) = true := by
          simpa [keepsOut, kind, placed] using left
        simp [refusedNamespace?, placed, verdict]
    rw [contribution, passed]

theorem unmarked_contribution {allows : String → Bool} (left : run.keepsOut e allows = false) :
    ({ run with filter := some allows }.contribution e).unmarked =
      ({ run with filter := none }.contribution e).unmarked := by
  rw [run.contribution_of_passed e left, contribution_free, unmarked_admittedContribution]

theorem contribution_of_unmarked {allows : String → Bool} (left : run.keepsOut e allows = false)
    (other : e.group ≠ namespaceLabel ∨ e.spec.namespaceOf = none) :
    { run with filter := some allows }.contribution e =
      { run with filter := none }.contribution e := by
  have unmarked (filter : Option (String → Bool)) : run.mark? e filter = none := by
    rcases other with other | untold
    · simp [mark?, other]
    · simp [mark?, isSubjectToFilter, untold]
  have same : { run with filter := some allows }.identity e =
      { run with filter := none }.identity e := by
    rw [identity_filter, run.identity_filter e none, unmarked, unmarked]
    cases ({ run with filter := none }.identity e) <;> rfl
  rw [contribution_free, run.contribution_of_passed e left]
  unfold admittedContribution
  rw [same]
  rfl

end PopulationRun

structure Contribution.SameButMarks (c d : Contribution) : Prop where
  errors : c.errors = d.errors
  placements : c.placements.map Placement.unmarked = d.placements.map Placement.unmarked
  written : c.written = d.written

namespace Contribution.SameButMarks

theorem of_unmarked {c d : Contribution} (h : c.unmarked = d.unmarked) : c.SameButMarks d := by
  simp only [unmarked, mk.injEq] at h
  obtain ⟨incidents, placements, written⟩ := h
  exact ⟨congrArg (List.filterMap Incident.error?) incidents, placements, written⟩

theorem append {a b c d : Contribution} (first : a.SameButMarks b) (second : c.SameButMarks d) :
    (a.append c).SameButMarks (b.append d) where
  errors := by rw [errors_append, errors_append, first.errors, second.errors]
  placements := by
    simp only [Contribution.append, List.map_append, first.placements, second.placements]
  written := congrArg₂ (· + ·) first.written second.written

theorem refl (c : Contribution) : c.SameButMarks c := ⟨rfl, rfl, rfl⟩

end Contribution.SameButMarks

namespace PopulationRun

structure SameButMarks (a b : Population × Payload) : Prop where
  populated : a.1.populated = b.1.populated
  metricsWritten : a.1.metricsWritten = b.1.metricsWritten
  entities : a.1.entities = b.1.entities
  errors : a.1.errors = b.1.errors
  payload : a.2.unmarked = b.2.unmarked

theorem sameButMarks_outcome {c d : Contribution} (h : c.SameButMarks d) (payload : Payload) :
    SameButMarks (outcome c payload) (outcome d payload) := by
  have placed : (c.placements.foldl Payload.place payload).unmarked =
      (d.placements.foldl Payload.place payload).unmarked := by
    rw [Payload.unmarked_foldl_place, h.placements, ← Payload.unmarked_foldl_place]
  have grown := congrArg (·.entities.length) placed
  simp only [Payload.unmarked, List.length_map] at grown
  exact {
    populated := congrArg (fun n => decide (0 < n)) h.written
    metricsWritten := h.written
    entities := congrArg (· - payload.entities.length) grown
    errors := h.errors
    payload := placed }

variable (run : PopulationRun)

theorem sameButMarks_join (allows : String → Bool) (units : List RawEntity) :
    (Contribution.join (units.map { run with filter := some allows }.contribution)).SameButMarks
      (.join ((units.filter fun e => !run.keepsOut e allows).map
        { run with filter := none }.contribution)) := by
  induction units with
  | nil => exact .refl _
  | cons e units ih =>
    have first (c : Contribution) (l : List Contribution) :
        Contribution.join (c :: l) = c.append (.join l) := rfl
    rw [List.map_cons, first, List.filter_cons]
    cases out : run.keepsOut e allows with
    | true =>
      obtain ⟨ns, refused⟩ := run.contribution_of_keepsOut e out
      rw [refused]
      refine ⟨?_, ih.placements, ?_⟩
      · rw [Contribution.errors_append]
        exact ih.errors
      · exact (Nat.zero_add _).trans ih.written
    | false =>
      exact (Contribution.SameButMarks.of_unmarked (run.unmarked_contribution e out)).append ih

theorem lastContribution_filtered (allows : String → Bool) (integration version : String) :
    { run with filter := some allows }.lastContribution run.rawEntities integration version =
      { run with filter := none }.lastContribution
        (run.rawEntities.filter fun e => !run.keepsOut e allows) integration version := by
  have entities := run.sameButMarks_join allows run.rawEntities
  simp only [lastContribution, entities.written]
  rfl

theorem keepsOut_of_admitting (e : RawEntity) : run.keepsOut e (fun _ => true) = false := by
  simp [keepsOut]

theorem filter_of_admitting :
    run.rawEntities.filter (fun e => !run.keepsOut e fun _ => true) = run.rawEntities :=
  List.filter_eq_self.2 fun e _ => by simp [run.keepsOut_of_admitting e]

def chosen (keep : String → String → Bool) (c : Contribution) : List Placement :=
  c.placements.filter fun x => keep x.name x.type

theorem chosen_of_admitting {e : RawEntity} {keep : String → String → Bool}
    (unchosen : e.group = namespaceLabel → e.spec.namespaceOf ≠ none →
      ∀ x ∈ ({ run with filter := none }.contribution e).placements, keep x.name x.type = false) :
    chosen keep ({ run with filter := some fun _ => true }.contribution e) =
      chosen keep ({ run with filter := none }.contribution e) := by
  have left := run.keepsOut_of_admitting e
  by_cases marked : e.group = namespaceLabel ∧ e.spec.namespaceOf ≠ none
  · have none : chosen keep ({ run with filter := none }.contribution e) = [] :=
      List.filter_eq_nil_iff.2 fun x hx => by simp [unchosen marked.1 marked.2 x hx]
    have same := congrArg (List.filter fun x : Placement => keep x.name x.type)
      (congrArg Contribution.placements (run.unmarked_contribution e left))
    simp only [Contribution.unmarked, List.filter_map] at same
    have nothing := same.trans (congrArg (List.map Placement.unmarked) none)
    exact (List.map_eq_nil_iff.1 nothing).trans none.symm
  · have other : e.group ≠ namespaceLabel ∨ e.spec.namespaceOf = none := by
      rwa [not_and_or, not_not] at marked
    rw [run.contribution_of_unmarked e left other]

theorem select_populate_admitting (payload : Payload) {keep : String → String → Bool}
    (unchosen : ∀ e ∈ run.rawEntities, e.group = namespaceLabel → e.spec.namespaceOf ≠ none →
      ∀ name type, { run with filter := none }.ReportedAs e name type → keep name type = false) :
    ({ run with filter := some fun _ => true }.populate payload).2.select keep =
      ({ run with filter := none }.populate payload).2.select keep := by
  have last := run.lastContribution_filtered (fun _ => true) payload.name payload.version
  rw [filter_of_admitting] at last
  have each (e : RawEntity) (he : e ∈ run.rawEntities) :
      chosen keep ({ run with filter := some fun _ => true }.contribution e) =
        chosen keep ({ run with filter := none }.contribution e) :=
    run.chosen_of_admitting fun kind told x hx => unchosen e he kind told _ _ ⟨x, hx, rfl, rfl⟩
  have all (run : PopulationRun) : chosen keep (run.total payload.name payload.version) =
      run.rawEntities.flatMap (fun e => chosen keep (run.contribution e)) ++
        chosen keep (run.lastContribution run.rawEntities payload.name payload.version) := by
    rw [total_eq_append, chosen, Contribution.append, List.filter_append, Contribution.join,
      List.filter_flatMap, List.flatMap_map]
    rfl
  have same := congrArg₂ (· ++ ·) (List.flatMap_congr each) (congrArg (chosen keep) last)
  simp only [populate, Payload.select_foldl_place]
  exact congrArg (List.foldl Payload.place _) ((all _).trans (same.trans (all _).symm))

/-- A filter only selects which raw entities are visited, and marks namespaces. One that admits
every namespace changes no visit but those of namespaces, and these by their marks only, so entities
that no namespace is reported as are the same. -/
theorem populate_filtered (run : PopulationRun) (allows : String → Bool) (payload : Payload) :
    let free : PopulationRun := { run with filter := none }
    let admitting : PopulationRun := { run with filter := some fun _ => true }
    SameButMarks ({ run with filter := some allows }.populate payload)
      (free.sweep (run.rawEntities.filter fun e => !run.keepsOut e allows) payload) ∧
    SameButMarks (admitting.populate payload) (free.populate payload) ∧
    (∀ keep : String → String → Bool,
      (∀ e ∈ run.rawEntities, e.group = namespaceLabel → e.spec.namespaceOf ≠ none →
        ∀ name type, free.ReportedAs e name type → keep name type = false) →
      (admitting.populate payload).2.select keep = (free.populate payload).2.select keep) ∧
    (∀ s e, e.group ≠ namespaceLabel ∨ e.spec.namespaceOf = none →
      admitting.visit s e = free.visit s e) ∧
    ∀ s, admitting.visitCluster s = free.visitCluster s := by
  intro free admitting
  have selected (allows : String → Bool) :
      SameButMarks ({ run with filter := some allows }.populate payload)
        (free.sweep (run.rawEntities.filter fun e => !run.keepsOut e allows) payload) := by
    have entities := run.sameButMarks_join allows run.rawEntities
    have last := run.lastContribution_filtered allows payload.name payload.version
    rw [populate_eq_sweep, sweep_eq, sweep_eq, contributionOf_eq_append, contributionOf_eq_append]
    exact sameButMarks_outcome (entities.append (last ▸ .refl _)) payload
  refine ⟨selected allows, ?_, fun keep => run.select_populate_admitting payload,
    fun s e other => ?_, fun s => rfl⟩
  · have all : run.rawEntities.filter (fun e => !run.keepsOut e fun _ => true) =
        free.rawEntities := run.filter_of_admitting
    rw [free.populate_eq_sweep, ← all]
    exact selected fun _ => true
  · rw [visit_eq_take, visit_eq_take,
      run.contribution_of_unmarked e (run.keepsOut_of_admitting e) other]

/-- Of two namespaces and their deployments one of each is refused: the namespace is still visited,
and marked, and the deployment is not. Deployments are the same if all is admitted. -/
theorem populate_filtered_system :
    let inNamespace (ns : String) : RawMetrics :=
      .singleton "created" (.single ⟨.singleton "namespace" ns, .gauge (.ofInt 1)⟩)
    let kind : SpecGroup := {
      specs := []
      type := fun group _ _ cluster => .ok (cluster ++ ":" ++ group)
      namespaceOf := some NamespaceGetter.fromLabel }
    let run : PopulationRun := {
      groups := .ofList [
        ("deployment", .ofList [("dns", inNamespace "system"), ("shop", inNamespace "web")]),
        ("namespace", .ofList [("system", inNamespace "system"), ("web", inNamespace "web")])]
      specs := .ofList [("deployment", kind), ("namespace", kind)]
      filter := none
      cluster := "c"
      k8sVersion := "1.30"
      guesser := Guesser.capitalized }
    let filtered := { run with filter := some (· == "web") }.populate (.create "ksm" "1")
    let left := run.rawEntities.filter fun e => !run.keepsOut e (· == "web")
    let deployments (_ type : String) : Bool := type == "c:deployment"
    left.map (·.id) = ["shop", "system", "web"] ∧
    SameButMarks filtered (run.sweep left (.create "ksm" "1")) ∧
    (((filtered.2.find? "system" "c:namespace").map (·.metricSets)).bind (·.head?)).bind
        (·.find? "nrFiltered") = some (.text "true") ∧
    ({ run with filter := some fun _ => true }.populate (.create "ksm" "1")).2.select deployments =
      (run.populate (.create "ksm" "1")).2.select deployments ∧
    ∀ s e, e.group = "deployment" →
      { run with filter := some fun _ => true }.visit s e = run.visit s e := by
  intro inNamespace kind run filtered left deployments
  obtain ⟨selected, -, apart, visits, -⟩ := run.populate_filtered (· == "web") (.create "ksm" "1")
  refine ⟨by decide +kernel, selected, by decide +kernel, apart _ ?_, fun s e group => ?_⟩
  · rintro e he kind - name type ⟨x, hx, rfl, rfl⟩
    have namespaces : ∀ e ∈ run.rawEntities, e.group = namespaceLabel →
        ∀ x ∈ (run.contribution e).placements, (x.type == "c:deployment") = false := by
      decide +kernel
    exact namespaces e he kind x hx
  · refine visits s e (.inl ?_)
    rw [group]
    decide

end PopulationRun
end KubeEntities
