import KubeEntities.Proofs.Population.RawEntities
import KubeEntities.Proofs.Strategy.Kinds

/-! Population and the kinds of numbers. A metric is stored, or refused and shown, by the text of
its number and by whether its source type is numeric, and neither depends on a kind. So where
strategies are blind to kinds a cycle over the neutral form of the families places the same and
reports the same (`cycle_neutral`), except that a refused metric may be reported with another source
type; two cycles over families that differ only in kinds then agree as far (`cycle_rewrapped`). -/

namespace KubeEntities

def SinkError.withoutType : SinkError → SinkError
  | .typeMismatch metric _ shown => .typeMismatch metric .gauge shown
  | cause => cause

def Cause.withoutType : Cause → Cause
  | .sink cause => .sink cause.withoutType
  | cause => cause

/-- The error as far as it does not depend on the source type of a metric that was refused. -/
def PopulateError.withoutType (e : PopulateError) : PopulateError :=
  { e with cause := e.cause.withoutType }

def Incident.withoutType : Incident → Incident
  | .failed e => .failed e.withoutType
  | incident => incident

structure Write.Alike (v w : Write) : Prop where
  name : v.name = w.name
  stored : MetricSet.stored? v.type v.value = MetricSet.stored? w.type w.value
  shown : v.value.display = w.value.display

structure Draft.Alike (c d : Draft) : Prop where
  set : c.set = d.set
  written : c.written = d.written
  errors : c.errors.map PopulateError.withoutType = d.errors.map PopulateError.withoutType

structure Contribution.Alike (a b : Contribution) : Prop where
  incidents : a.incidents.map Incident.withoutType = b.incidents.map Incident.withoutType
  placements : a.placements = b.placements
  written : a.written = b.written

theorem MetricSet.stored?_neutralScalar (type : SourceType) (found : Fetched) :
    stored? type found.neutralScalar = stored? type found := by
  cases found with
  | value v => simp [stored?, Fetched.neutralScalar, Fetched.number?, Fetched.text?]
  | _ => rfl

theorem MetricSet.stored?_neutral (type : SourceType) (found : Fetched) :
    stored? type.neutral found = stored? type found := by
  simp only [stored?, SourceType.isNumeric_neutral]

theorem Fetched.display_neutralScalar (found : Fetched) :
    found.neutralScalar.display = found.display := by
  cases found with
  | value v => cases v <;> rfl
  | _ => rfl

theorem Write.Alike.neutralScalar (name : String) (found : Fetched) (type : SourceType) :
    Write.Alike ⟨name, found.neutralScalar, type⟩ ⟨name, found, type⟩ :=
  ⟨rfl, MetricSet.stored?_neutralScalar type found, found.display_neutralScalar⟩

theorem Spec.writes_neutral (s : Spec) (found : Fetched) :
    List.Forall₂ Write.Alike (s.writes found.neutral) (s.writes found) := by
  cases found with
  | value v => exact .cons (.neutralScalar s.name (.value v) s.type) .nil
  | text t => exact .cons (.neutralScalar s.name (.text t) s.type) .nil
  | flag b => exact .cons (.neutralScalar s.name (.flag b) s.type) .nil
  | values entries =>
    simp only [writes, Fetched.neutral, List.map_map, List.forall₂_map_left_iff,
      List.forall₂_map_right_iff]
    exact List.forall₂_same.2 fun entry _ => .neutralScalar entry.1 entry.2 s.type
  | typed entries =>
    simp only [writes, Fetched.neutral, List.map_map, List.forall₂_map_left_iff,
      List.forall₂_map_right_iff]
    refine List.forall₂_same.2 fun entry _ => ?_
    have same := Write.Alike.neutralScalar entry.1 entry.2.1 entry.2.2
    exact ⟨rfl, (MetricSet.stored?_neutral ..).trans same.stored, same.shown⟩

namespace Draft
variable {c d : Draft} {group id : String}

theorem Alike.fail (h : c.Alike d) (metric : String) {cause cause' : Cause}
    (same : cause.withoutType = cause'.withoutType) :
    (c.fail group id metric cause).Alike (d.fail group id metric cause') where
  set := h.set
  written := h.written
  errors := by simp [Draft.fail, h.errors, PopulateError.withoutType, same]

theorem Alike.write (h : c.Alike d) {v w : Write} (alike : v.Alike w) :
    (c.write group id v).Alike (d.write group id w) := by
  unfold Draft.write MetricSet.set
  rw [alike.name, alike.stored, h.set]
  cases w.name.isEmpty with
  | true => exact h.fail w.name rfl
  | false =>
    cases MetricSet.stored? w.type w.value with
    | none =>
      refine h.fail w.name ?_
      rw [alike.shown]
      rfl
    | some stored => exact ⟨rfl, congrArg (· + 1) h.written, h.errors⟩

theorem Alike.foldl_write {vs ws : List Write} (alike : List.Forall₂ Write.Alike vs ws)
    (h : c.Alike d) :
    (vs.foldl (Draft.write group id) c).Alike (ws.foldl (Draft.write group id) d) := by
  induction alike generalizing c d with
  | nil => exact h
  | cons first _ ih => exact ih (h.write first)

theorem Alike.fill (h : c.Alike d) {s : Spec} (blind : Fetcher.IsKindBlind s.fetch)
    (groups : RawGroups) :
    (c.fill groups.neutral group id s).Alike (d.fill groups group id s) := by
  unfold Draft.fill
  rw [blind]
  cases s.fetch group id groups with
  | error cause =>
    dsimp only [Except.map]
    split
    · exact h
    · exact h.fail s.name rfl
  | ok found =>
    cases found with
    | none => exact h
    | some found => exact h.foldl_write (s.writes_neutral found)

theorem Alike.foldl_fill (h : c.Alike d) {specs : List Spec}
    (blind : ∀ s ∈ specs, Fetcher.IsKindBlind s.fetch) (groups : RawGroups) :
    (specs.foldl (Draft.fill groups.neutral group id) c).Alike
      (specs.foldl (Draft.fill groups group id) d) := by
  induction specs generalizing c d with
  | nil => exact h
  | cons s specs ih =>
    exact ih (h.fill (blind s List.mem_cons_self) groups)
      fun s' hs => blind s' (List.mem_cons_of_mem _ hs)

end Draft

namespace Contribution

theorem Alike.refl (c : Contribution) : c.Alike c := ⟨rfl, rfl, rfl⟩

theorem Alike.append {a b c d : Contribution} (first : a.Alike b) (second : c.Alike d) :
    (a.append c).Alike (b.append d) where
  incidents := by simp [Contribution.append, first.incidents, second.incidents]
  placements := by simp [Contribution.append, first.placements, second.placements]
  written := by simp [Contribution.append, first.written, second.written]

theorem Alike.join_map {α : Type} {l : List α} {f g : α → Contribution}
    (each : ∀ a ∈ l, (f a).Alike (g a)) : (join (l.map f)).Alike (join (l.map g)) := by
  induction l with
  | nil => exact .refl _
  | cons a l ih =>
    exact (each a List.mem_cons_self).append (ih fun a' h => each a' (List.mem_cons_of_mem _ h))

theorem Alike.of_draft {c d : Draft} (h : c.Alike d) (name type : String) :
    (c.contribution name type).Alike (d.contribution name type) where
  incidents := by
    have each : Incident.withoutType ∘ Incident.failed =
        Incident.failed ∘ PopulateError.withoutType := rfl
    simp only [Draft.contribution, List.map_map, each]
    simp only [← List.map_map, h.errors]
  placements := by simp [Draft.contribution, h.set]
  written := h.written

end Contribution

theorem Incident.error?_withoutType (incident : Incident) :
    incident.withoutType.error? = incident.error?.map PopulateError.withoutType := by
  cases incident <;> rfl

def PopulationRun.neutral (run : PopulationRun) : PopulationRun :=
  { run with groups := run.groups.neutral }

def RawEntity.neutral (e : RawEntity) : RawEntity := { e with raw := e.raw.neutral }

section
variable (e : RawEntity)

@[simp] theorem RawEntity.group_neutral : e.neutral.group = e.group := rfl

@[simp] theorem RawEntity.spec_neutral : e.neutral.spec = e.spec := rfl

@[simp] theorem RawEntity.id_neutral : e.neutral.id = e.id := rfl

@[simp] theorem RawEntity.raw_neutral : e.neutral.raw = e.raw.neutral := rfl

end

namespace PopulationRun
variable (run : PopulationRun)

@[simp] theorem groups_neutral : run.neutral.groups = run.groups.neutral := rfl

@[simp] theorem filter_neutral : run.neutral.filter = run.filter := rfl

@[simp] theorem cluster_neutral : run.neutral.cluster = run.cluster := rfl

@[simp] theorem guesser_neutral : run.neutral.guesser = run.guesser := rfl

theorem rawEntities_neutral : run.neutral.rawEntities = run.rawEntities.map RawEntity.neutral := by
  simp only [rawEntities, neutral, RawGroups.neutral, SortedMap.map, List.flatMap_map,
    List.map_flatMap]
  refine List.flatMap_congr fun entry _ => ?_
  cases run.specs.find? entry.1 <;> simp [RawEntity.neutral, Function.comp_def]

section
variable {e : RawEntity} (blind : e.spec.IsKindBlind)
include blind

theorem refusedNamespace?_neutral :
    run.neutral.refusedNamespace? e.neutral = run.refusedNamespace? e := by
  simp only [refusedNamespace?, RawEntity.spec_neutral, RawEntity.group_neutral,
    RawEntity.id_neutral, groups_neutral, filter_neutral]
  cases declared : e.spec.namespaceOf with
  | none => rfl
  | some getter =>
    have same := blind.namespaceOf getter declared e.group e.id run.groups
    cases run.filter with
    | none => rfl
    | some allows => simp only [same]

theorem entityName_neutral : run.neutral.entityName e.neutral = run.entityName e := by
  simp only [entityName, RawEntity.spec_neutral, RawEntity.group_neutral, RawEntity.id_neutral,
    groups_neutral]
  cases e.spec.split with
  | some split => rfl
  | none =>
    cases declared : e.spec.id with
    | none => rfl
    | some generate => exact blind.id generate declared _ _ _

theorem identity_neutral : run.neutral.identity e.neutral = run.identity e := by
  have typed := blind.type e.group e.id run.groups
  simp only [identity, isSubjectToFilter, run.entityName_neutral blind,
    run.refusedNamespace?_neutral blind, RawEntity.spec_neutral, RawEntity.group_neutral,
    RawEntity.id_neutral, groups_neutral, filter_neutral, cluster_neutral, typed]
  rfl

theorem setContribution_neutral (identity : Identity) (groups : RawGroups) :
    (run.neutral.setContribution e.neutral identity groups.neutral).Alike
      (run.setContribution e identity groups) := by
  simp only [setContribution, RawEntity.spec_neutral, RawEntity.group_neutral,
    RawEntity.id_neutral, guesser_neutral, cluster_neutral]
  cases (e.spec.guesser.getD run.guesser) e.group with
  | error cause => exact .refl _
  | ok eventType =>
    dsimp only
    split
    · exact .refl _
    · exact .of_draft (Draft.Alike.foldl_fill ⟨rfl, rfl, rfl⟩ blind.specs groups) _ _

theorem admittedContribution_neutral :
    (run.neutral.admittedContribution e.neutral).Alike (run.admittedContribution e) := by
  simp only [admittedContribution, run.identity_neutral blind, RawEntity.spec_neutral,
    RawEntity.group_neutral, RawEntity.id_neutral, RawEntity.raw_neutral, groups_neutral]
  cases run.identity e with
  | error cause => exact .refl _
  | ok identity =>
    cases e.spec.split with
    | none => exact run.setContribution_neutral blind identity run.groups
    | some split =>
      dsimp only
      rw [RawMetrics.split_neutral]
      cases e.raw.split (split.sliceMetric e.group) split.label with
      | error cause => exact .refl _
      | ok parts =>
        dsimp only [Except.map]
        rw [SortedMap.values_map, List.map_map]
        exact .join_map fun part _ =>
          run.setContribution_neutral blind identity (.only e.group e.id part)

theorem contribution_neutral :
    (run.neutral.contribution e.neutral).Alike (run.contribution e) := by
  unfold contribution
  rw [run.refusedNamespace?_neutral blind]
  cases run.refusedNamespace? e with
  | none => exact run.admittedContribution_neutral blind
  | some ns =>
    by_cases named : e.group = namespaceLabel
    · have named' : e.neutral.group = namespaceLabel := named
      simp only [if_pos named, if_pos named']
      exact run.admittedContribution_neutral blind
    · have named' : e.neutral.group ≠ namespaceLabel := named
      simp only [if_neg named, if_neg named']
      exact .refl _

end

variable {run} (blind : ∀ group g, run.specs.find? group = some g → g.IsKindBlind)
include blind

theorem entityContributions_neutral :
    run.neutral.entityContributions.Alike run.entityContributions := by
  rw [entityContributions, rawEntities_neutral, List.map_map]
  refine .join_map fun e visited => ?_
  exact run.contribution_neutral (blind e.group e.spec (mem_rawEntities.1 visited).1)

theorem total_neutral (integration version : String) :
    (run.neutral.total integration version).Alike (run.total integration version) := by
  have entities := entityContributions_neutral blind
  unfold total
  dsimp only
  rw [entities.written]
  split
  · exact entities.append (.refl _)
  · exact entities

theorem populate_neutral (payload : Payload) :
    (run.neutral.populate payload).2 = (run.populate payload).2 ∧
      (run.neutral.populate payload).1.populated = (run.populate payload).1.populated ∧
      (run.neutral.populate payload).1.entities = (run.populate payload).1.entities ∧
      (run.neutral.populate payload).1.metricsWritten =
        (run.populate payload).1.metricsWritten ∧
      (run.neutral.populate payload).1.errors.map PopulateError.withoutType =
        (run.populate payload).1.errors.map PopulateError.withoutType := by
  have total := total_neutral blind payload.name payload.version
  have placed : (run.neutral.populate payload).2 = (run.populate payload).2 := by
    simp only [populate, total.placements]
  have reported (incidents : List Incident) :
      (incidents.filterMap Incident.error?).map PopulateError.withoutType =
        (incidents.map Incident.withoutType).filterMap Incident.error? := by
    rw [List.filterMap_map, List.map_filterMap]
    exact congrArg (List.filterMap · incidents)
      (funext fun incident => incident.error?_withoutType.symm)
  refine ⟨placed, ?_, ?_, total.written, ?_⟩
  · simp only [populate, total.written]
  · simp only [populate, total.placements]
  · simp only [Population.errors, populate, reported, total.incidents]

end PopulationRun

structure CycleReport.Alike (a b : CycleReport) : Prop where
  dataSource : a.dataSource = b.dataSource
  populated : a.populated = b.populated
  entities : a.entities = b.entities
  metricsWritten : a.metricsWritten = b.metricsWritten
  groupErrors : a.groupErrors = b.groupErrors
  /-- the same errors in the same order, but for the source types that they name -/
  populateErrors : a.populateErrors.map PopulateError.withoutType =
    b.populateErrors.map PopulateError.withoutType

theorem CycleReport.Alike.symm {a b : CycleReport} (h : a.Alike b) : b.Alike a :=
  ⟨h.1.symm, h.2.symm, h.3.symm, h.4.symm, h.5.symm, h.6.symm⟩

theorem CycleReport.Alike.trans {a b c : CycleReport} (h : a.Alike b) (h' : b.Alike c) :
    a.Alike c :=
  ⟨h.1.trans h'.1, h.2.trans h'.2, h.3.trans h'.3, h.4.trans h'.4, h.5.trans h'.5,
    h.6.trans h'.6⟩

namespace DataSource
variable (source : DataSource) (ctx : CycleContext) (families : List Family) (payload : Payload)

theorem population_neutral :
    source.population ctx (families.map Family.neutral) =
      (source.population ctx families).neutral := by
  rw [population, select_neutral, SpecTable.groups_neutral]
  rfl

variable {source} (blind : ∀ group g, source.specs.find? group = some g → g.IsKindBlind)
include blind

theorem cycle_neutral :
    (source.cycle ctx (families.map Family.neutral) payload).payload =
        (source.cycle ctx families payload).payload ∧
      (source.cycle ctx (families.map Family.neutral) payload).report.Alike
        (source.cycle ctx families payload).report := by
  have blind : ∀ group g, (source.population ctx families).specs.find? group = some g →
      g.IsKindBlind := blind
  obtain ⟨placed, populated, entities, written, errors⟩ :=
    PopulationRun.populate_neutral blind payload
  rw [payload_cycle, payload_cycle, report_cycle, report_cycle, population_neutral, select_neutral,
    SpecTable.errors_neutral]
  exact ⟨placed, rfl, populated, entities, written, rfl, errors⟩

theorem cycle_rewrapped {a b : List Family} (h : List.Forall₂ Family.Rewrapped a b) :
    (source.cycle ctx a payload).payload = (source.cycle ctx b payload).payload ∧
      (source.cycle ctx a payload).report.Alike (source.cycle ctx b payload).report := by
  have same : List.Forall₂ (· = ·) (a.map Family.neutral) (b.map Family.neutral) :=
    List.forall₂_map_left_iff.2 (List.forall₂_map_right_iff.2 (h.imp fun _ _ h => h.neutral))
  rw [List.forall₂_eq_eq_eq] at same
  obtain ⟨placedA, reportedA⟩ := cycle_neutral ctx a payload blind
  obtain ⟨placedB, reportedB⟩ := cycle_neutral ctx b payload blind
  rw [same] at placedA reportedA
  exact ⟨placedA.symm.trans placedB, reportedA.symm.trans reportedB⟩

end DataSource
end KubeEntities
