import KubeEntities.Proofs.Payload.Slot
import KubeEntities.Proofs.Population.Located

/-! Population in place. The visits below hold one payload from the first raw entity to the cluster:
each opens its entity in the payload that the visits before it left behind and writes one metric
after the other into it. `sweep_eq` says that this comes to placing contributions which were worked
out without a payload, so what a visit adds does not depend on what is there. -/

namespace KubeEntities

structure Progress where
  payload : Payload
  populated : Bool
  written : Nat
  incidents : List Incident

namespace Progress

def start (payload : Payload) : Progress := ⟨payload, false, 0, []⟩

def record (s : Progress) (i : Incident) : Progress := { s with incidents := s.incidents ++ [i] }

/-- Writes a metric into a set of the payload. A set that is not there takes nothing. -/
def write (group id : String) (position set : Nat) (s : Progress) (w : Write) : Progress :=
  match s.payload.setMetric position set w.name w.value w.type with
  | some (.ok payload) => { s with payload, populated := true, written := s.written + 1 }
  | some (.error e) => s.record (.failed ⟨group, id, some w.name, .sink e⟩)
  | none => s

def mark (group id : String) (position set : Nat) (s : Progress) (filtered : Bool) : Progress :=
  match s.payload.setMetric position set Draft.filteredAttribute (.flag filtered) .attr with
  | some (.ok payload) => { s with payload }
  | some (.error e) => s.record (.failed ⟨group, id, some Draft.filteredAttribute, .sink e⟩)
  | none => s

def fill (groups : RawGroups) (group id : String) (position set : Nat) (s : Progress)
    (spec : Spec) : Progress :=
  match spec.fetch group id groups with
  | .ok none => s
  | .ok (some found) => (spec.writes found).foldl (write group id position set) s
  | .error e =>
    if spec.isOptional then s else s.record (.failed ⟨group, id, some spec.name, .resolve e⟩)

def take (s : Progress) (c : Contribution) : Progress :=
  ⟨c.placements.foldl Payload.place s.payload, s.populated || decide (0 < c.written),
    s.written + c.written, s.incidents ++ c.incidents⟩

/-- Progress with a draft standing as one of the sets of the payload. -/
def holding (s : Progress) (position set : Nat) (d : Draft) : Progress :=
  ⟨s.payload.withSet position set d.set, s.populated || decide (0 < d.written),
    s.written + d.written, s.incidents ++ d.errors.map .failed⟩

section
variable {s : Progress} {position set : Nat} (there : s.payload.HasSet position set)
variable (group id : String)
include there

theorem write_holding (d : Draft) (w : Write) :
    (s.holding position set d).write group id position set w =
      s.holding position set (d.write group id w) := by
  have stored := Payload.setMetric_withSet there d.set w.name w.value w.type
  cases outcome : d.set.set w.name w.value w.type with
  | ok m => simp [write, holding, Draft.write, stored, outcome, Except.map, Nat.add_assoc]
  | error e =>
    simp [write, holding, Draft.write, Draft.fail, record, stored, outcome, Except.map]

theorem mark_holding (d : Draft) (filtered : Bool) :
    (s.holding position set d).mark group id position set filtered =
      s.holding position set (d.mark group id filtered) := by
  have stored :=
    Payload.setMetric_withSet there d.set Draft.filteredAttribute (.flag filtered) .attr
  cases outcome : d.set.set Draft.filteredAttribute (.flag filtered) .attr with
  | ok m => simp [mark, holding, Draft.mark, stored, outcome, Except.map]
  | error e => simp [mark, holding, Draft.mark, Draft.fail, record, stored, outcome, Except.map]

theorem foldl_write_holding (d : Draft) (writes : List Write) :
    writes.foldl (write group id position set) (s.holding position set d) =
      s.holding position set (writes.foldl (Draft.write group id) d) := by
  induction writes generalizing d with
  | nil => rfl
  | cons w writes ih => rw [List.foldl_cons, List.foldl_cons, write_holding there, ih]

theorem fill_holding (groups : RawGroups) (d : Draft) (spec : Spec) :
    (s.holding position set d).fill groups group id position set spec =
      s.holding position set (d.fill groups group id spec) := by
  unfold fill Draft.fill
  cases spec.fetch group id groups with
  | error e =>
    cases spec.isOptional with
    | true => rfl
    | false => simp [holding, record, Draft.fail]
  | ok found =>
    cases found with
    | none => rfl
    | some found => exact foldl_write_holding there group id d (spec.writes found)

theorem foldl_fill_holding (groups : RawGroups) (d : Draft) (specs : List Spec) :
    specs.foldl (fill groups group id position set) (s.holding position set d) =
      s.holding position set (specs.foldl (Draft.fill groups group id) d) := by
  induction specs generalizing d with
  | nil => rfl
  | cons spec specs ih => rw [List.foldl_cons, List.foldl_cons, fill_holding there, ih]

end

theorem take_nothing (s : Progress) : s.take .nothing = s := by
  simp [take, Contribution.nothing]

theorem take_failed (s : Progress) (group id : String) (cause : Cause) :
    s.take (.failed group id cause) = s.record (.failed ⟨group, id, none, cause⟩) := by
  simp [take, record, Contribution.failed]

theorem take_append (s : Progress) (a b : Contribution) :
    s.take (a.append b) = (s.take a).take b := by
  have either : (0 < a.written + b.written) ↔ (0 < a.written ∨ 0 < b.written) := by omega
  simp [take, Contribution.append, either, Bool.or_assoc, Nat.add_assoc]

theorem take_join (s : Progress) (l : List Contribution) : s.take (.join l) = l.foldl take s := by
  induction l generalizing s with
  | nil => exact s.take_nothing
  | cons c l ih =>
    rw [List.foldl_cons, ← ih, ← take_append]
    rfl

def opened (s : Progress) (x : Placement) : Progress := { s with payload := s.payload.filled x }

theorem opened_eq_holding (s : Progress) (x : Placement) :
    s.opened x = (s.opened x).holding (s.payload.slot x) (s.payload.freshSet x) ⟨x.set, 0, []⟩ := by
  simp [holding, opened, Payload.withSet_filled_self]

theorem holding_opened (s : Progress) (x : Placement) (d : Draft) :
    (s.opened x).holding (s.payload.slot x) (s.payload.freshSet x) d =
      s.take ⟨d.errors.map .failed, [{ x with set := d.set }], d.written⟩ := by
  simp [holding, opened, take, Payload.withSet_filled]

end Progress

namespace PopulationRun

def visitSet (run : PopulationRun) (e : RawEntity) (identity : Identity) (groups : RawGroups)
    (s : Progress) : Progress :=
  match (e.spec.guesser.getD run.guesser) e.group with
  | .error cause => s.record (.failed ⟨e.group, e.id, none, .resolve cause⟩)
  | .ok eventType =>
    match s.payload.entity identity.name identity.type with
    | .error cause => s.record (.failed ⟨e.group, e.id, none, .sink cause⟩)
    | .ok payload =>
      let position := payload.position identity.name identity.type
      let set := payload.setCount position
      let attributes := [("displayName", identity.name), ("clusterName", run.cluster)]
      let opened := { s with payload := payload.addMetricSet position eventType attributes }
      let marked := identity.filtered.elim opened (opened.mark e.group e.id position set)
      e.spec.specs.foldl (Progress.fill groups e.group e.id position set) marked

def visitAdmitted (run : PopulationRun) (s : Progress) (e : RawEntity) : Progress :=
  match run.identity e with
  | .error cause => s.record (.failed ⟨e.group, e.id, none, .resolve cause⟩)
  | .ok identity =>
    match e.spec.split with
    | none => run.visitSet e identity run.groups s
    | some split =>
      match e.raw.split (split.sliceMetric e.group) split.label with
      | .error cause => s.record (.failed ⟨e.group, e.id, none, .resolve cause⟩)
      | .ok parts =>
        parts.values.foldl (fun s part => run.visitSet e identity (.only e.group e.id part) s) s

def visit (run : PopulationRun) (s : Progress) (e : RawEntity) : Progress :=
  match run.refusedNamespace? e with
  | some ns =>
    if e.group = namespaceLabel then run.visitAdmitted s e
    else s.record (.filtered e.group e.id ns)
  | none => run.visitAdmitted s e

def visitCluster (run : PopulationRun) (s : Progress) : Progress :=
  match s.payload.entity run.cluster clusterEntityType with
  | .error cause => s.record (.failed ⟨clusterCategory, run.cluster, none, .sink cause⟩)
  | .ok payload =>
    let position := payload.position run.cluster clusterEntityType
    let set := payload.setCount position
    let items := [("name", run.cluster), ("k8sVersion", run.k8sVersion),
      ("newrelic.integrationVersion", payload.version), ("newrelic.integrationName", payload.name)]
    let stocked := items.foldl (fun p (field, text) =>
      p.setInventory position clusterCategory field (.str text)) payload
    let opened := { s with payload := stocked.addMetricSet position clusterEventType [] }
    [⟨"clusterName", .text run.cluster, .attr⟩, ⟨"clusterK8sVersion", .text run.k8sVersion, .attr⟩]
      |>.foldl (Progress.write clusterCategory run.cluster position set) opened

/-- Visits raw entities in the order given, then the cluster if any metric was written. -/
def sweep (run : PopulationRun) (units : List RawEntity) (payload : Payload) :
    Population × Payload :=
  let visited := units.foldl run.visit (.start payload)
  let done := if visited.populated then run.visitCluster visited else visited
  ({ populated := done.populated
     metricsWritten := done.written
     entities := done.payload.entities.length - payload.entities.length
     incidents := done.incidents }, done.payload)

section
variable (run : PopulationRun) (s : Progress)

theorem visitSet_eq_take (e : RawEntity) (identity : Identity) (groups : RawGroups) :
    run.visitSet e identity groups s = s.take (run.setContribution e identity groups) := by
  unfold visitSet setContribution
  cases (e.spec.guesser.getD run.guesser) e.group with
  | error cause => simp only [Progress.take_failed]
  | ok eventType =>
    simp only [Payload.entity_eq]
    cases identity.name.isEmpty with
    | true => simp only [if_true, Progress.take_failed]
    | false =>
      let attributes := [("displayName", identity.name), ("clusterName", run.cluster)]
      let blank : Draft := ⟨.create eventType attributes, 0, []⟩
      let x : Placement := ⟨identity.name, identity.type, blank.set, []⟩
      have there : (s.opened x).payload.HasSet (s.payload.slot x) (s.payload.freshSet x) :=
        s.payload.hasSet_filled x
      have marked :
          identity.filtered.elim (s.opened x)
              ((s.opened x).mark e.group e.id (s.payload.slot x) (s.payload.freshSet x)) =
            (s.opened x).holding (s.payload.slot x) (s.payload.freshSet x)
              (identity.filtered.elim blank (blank.mark e.group e.id)) := by
        cases identity.filtered with
        | none => exact s.opened_eq_holding x
        | some filtered =>
          have marked := Progress.mark_holding there e.group e.id blank filtered
          rwa [← s.opened_eq_holding x] at marked
      change e.spec.specs.foldl
          (Progress.fill groups e.group e.id (s.payload.slot x) (s.payload.freshSet x))
          (identity.filtered.elim (s.opened x)
            ((s.opened x).mark e.group e.id (s.payload.slot x) (s.payload.freshSet x))) = _
      rw [marked, Progress.foldl_fill_holding there, Progress.holding_opened]
      rfl

theorem visitAdmitted_eq_take (e : RawEntity) :
    run.visitAdmitted s e = s.take (run.admittedContribution e) := by
  unfold visitAdmitted admittedContribution
  cases run.identity e with
  | error cause => simp only [Progress.take_failed]
  | ok identity =>
    cases e.spec.split with
    | none => exact run.visitSet_eq_take s e identity run.groups
    | some split =>
      dsimp only
      cases e.raw.split (split.sliceMetric e.group) split.label with
      | error cause => simp only [Progress.take_failed]
      | ok parts => simp only [visitSet_eq_take, Progress.take_join, List.foldl_map]

theorem visit_eq_take (e : RawEntity) : run.visit s e = s.take (run.contribution e) := by
  unfold visit contribution
  cases run.refusedNamespace? e with
  | none => exact run.visitAdmitted_eq_take s e
  | some ns =>
    by_cases named : e.group = namespaceLabel
    · simp only [named, if_true, visitAdmitted_eq_take]
    · simp [named, Progress.take, Progress.record]

theorem visitCluster_eq_take :
    run.visitCluster s =
      s.take (run.clusterContribution s.payload.name s.payload.version) := by
  unfold visitCluster clusterContribution
  simp only [Payload.entity_eq]
  cases run.cluster.isEmpty with
  | true => simp only [if_true, Progress.take_failed]
  | false =>
    let blank : Draft := ⟨.create clusterEventType [], 0, []⟩
    let items := [("name", run.cluster), ("k8sVersion", run.k8sVersion),
      ("newrelic.integrationVersion", s.payload.version),
      ("newrelic.integrationName", s.payload.name)]
    let x : Placement := {
      name := run.cluster
      type := clusterEntityType
      set := blank.set
      items := items.map fun (field, text) => (clusterCategory, field, .str text) }
    have there : (s.opened x).payload.HasSet (s.payload.slot x) (s.payload.freshSet x) :=
      s.payload.hasSet_filled x
    -- stocking first and opening the set afterwards comes to the same entity
    have stocked :
        (items.foldl (fun p (field, text) =>
            p.setInventory (s.payload.slot x) clusterCategory field (.str text))
          (s.payload.ensure x.name x.type)).addMetricSet (s.payload.slot x) clusterEventType [] =
          s.payload.filled x := by
      simp only [items, List.foldl_cons, List.foldl_nil, Payload.setInventory,
        Payload.addMetricSet, Payload.modifyAt_modifyAt]
      rfl
    have opened : ({ s with payload :=
        (items.foldl (fun p (field, text) =>
            p.setInventory (s.payload.slot x) clusterCategory field (.str text))
          (s.payload.ensure x.name x.type)).addMetricSet (s.payload.slot x) clusterEventType [] } :
        Progress) =
        (s.opened x).holding (s.payload.slot x) (s.payload.freshSet x) blank := by
      rw [stocked]
      exact s.opened_eq_holding x
    have written := Progress.foldl_write_holding there clusterCategory run.cluster blank
      [⟨"clusterName", .text run.cluster, .attr⟩,
        ⟨"clusterK8sVersion", .text run.k8sVersion, .attr⟩]
    rw [← opened, Progress.holding_opened] at written
    exact written

theorem foldl_visit_eq_take (units : List RawEntity) :
    units.foldl run.visit s = s.take (.join (units.map run.contribution)) := by
  rw [Progress.take_join, List.foldl_map]
  congr 1
  funext s e
  exact run.visit_eq_take s e

end

def outcome (c : Contribution) (payload : Payload) : Population × Payload :=
  let after := c.placements.foldl Payload.place payload
  ({ populated := 0 < c.written
     metricsWritten := c.written
     entities := after.entities.length - payload.entities.length
     incidents := c.incidents }, after)

/-- Writing into a shared payload comes to placing contributions made without it. -/
theorem sweep_eq (run : PopulationRun) (units : List RawEntity) (payload : Payload) :
    run.sweep units payload =
      outcome (run.contributionOf units payload.name payload.version) payload := by
  let entities := Contribution.join (units.map run.contribution)
  let cluster := run.clusterContribution payload.name payload.version
  have visited : units.foldl run.visit (.start payload) = (Progress.start payload).take entities :=
    run.foldl_visit_eq_take (.start payload) units
  have names := Payload.foldl_place_name entities.placements payload
  have closed : run.visitCluster ((Progress.start payload).take entities) =
      (Progress.start payload).take (entities.append cluster) := by
    rw [visitCluster_eq_take, Progress.take_append]
    simp only [Progress.take, Progress.start, names, cluster]
  simp only [sweep, visited]
  by_cases any : 0 < entities.written
  · have total : run.contributionOf units payload.name payload.version = entities.append cluster :=
      if_pos any
    have begun : ((Progress.start payload).take entities).populated = true := by
      simp [Progress.take, any]
    rw [total, if_pos begun, closed]
    simp [outcome, Progress.take, Progress.start]
  · have total : run.contributionOf units payload.name payload.version = entities := if_neg any
    have begun : ¬ ((Progress.start payload).take entities).populated = true := by
      simp [Progress.take, Progress.start, any]
    rw [total, if_neg begun]
    simp [outcome, Progress.take, Progress.start]

/-- Population is a sweep over the raw entities of the snapshot, in their order. -/
theorem populate_eq_sweep (run : PopulationRun) (payload : Payload) :
    run.populate payload = run.sweep run.rawEntities payload :=
  (run.sweep_eq run.rawEntities payload).symm

end PopulationRun
end KubeEntities
