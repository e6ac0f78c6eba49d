import KubeEntities.Proofs.Population.Outcome
import KubeEntities.Proofs.Text.Quoted

/-! The log next to the report. Every visit of a population puts the errors that it adds into the
log, in the same order, or a note that the entity was skipped (`log_visit`), and so does the run as
a whole (`log_foldl_visit`). A cycle frames this with its empty groups and its summary
(`cycle_logged`). -/

namespace KubeEntities

namespace Event

def kind? (fields : SortedMap String) : Option String := fields.find? "event"

theorem kind?_structured (cluster kind : String) {fields : List (String × String)}
    (others : ∀ field ∈ fields, field.1 ≠ "event") :
    kind? (structured cluster kind fields) = some kind := by
  have last : ∀ field ∈ ("cluster", cluster) :: fields, field.1 ≠ "event" :=
    List.forall_mem_cons.2 ⟨by simp, others⟩
  exact @SortedMap.find?_ofList_last _ [] _ _ last kind

def emptied (cluster : String) : GroupError → SortedMap String
  | .noData group => structured cluster "group_empty" [("group_label", group)]

def skipped (cluster group id ns : String) : SortedMap String :=
  structured cluster "entity_filtered" [("group_label", group), ("entity_id", id), ("namespace", ns)]

/-- Of a scheduled pod the log tells no more than that it was left out. -/
def failed (cluster : String) : PopulateError → SortedMap String
  | ⟨_, id, none, .resolve (.podScheduled _)⟩ =>
    structured cluster "pod_skipped" [("entity_id", id)]
  | error => structured cluster "populate_failed"
    [("group_label", error.group), ("entity_id", error.id),
      ("metric", error.metric.elim "None" fun metric => "Some(" ++ Text.quoted metric ++ ")"),
      ("error", error.message)]

theorem fields_failureRecord (cluster : String) (error : PopulateError) :
    (failureRecord cluster error).fields = failed cluster error := by
  obtain ⟨group, id, metric, cause⟩ := error
  cases metric with
  | some metric => rfl
  | none =>
    cases cause with
    | sink e => rfl
    | resolve e => cases e <;> rfl

example : (failureRecord "c"
    ⟨"pod", "web_front", some "podStatus", .resolve (.metricNotFound "m")⟩).fields =
      .ofList [("event", "populate_failed"), ("cluster", "c"), ("group_label", "pod"),
        ("entity_id", "web_front"), ("metric", "Some(\"podStatus\")"),
        ("error", "cannot populate metric podStatus of pod entity web_front: " ++
          "metric \"m\" not found")] := by decide +kernel

theorem metric_injective : Function.Injective fun metric : Option String =>
    metric.elim "None" fun metric => "Some(" ++ Text.quoted metric ++ ")" := by
  intro metric metric' same
  cases metric with
  | none =>
    cases metric' with
    | none => rfl
    | some name => simp [String.ext_iff] at same
  | some name =>
    cases metric' with
    | none => simp [String.ext_iff] at same
    | some name' =>
      have quoted : Text.quoted name = Text.quoted name' := by simpa using same
      rw [Text.quoted_injective quoted]

theorem kind?_emptied (cluster : String) (error : GroupError) :
    kind? (emptied cluster error) = some "group_empty" :=
  kind?_structured cluster "group_empty" (by simp)

theorem kind?_skipped (cluster group id ns : String) :
    kind? (skipped cluster group id ns) = some "entity_filtered" :=
  kind?_structured cluster "entity_filtered" (by simp)

theorem kind?_failed (cluster : String) (error : PopulateError) :
    kind? (failed cluster error) = some "pod_skipped" ∨
      kind? (failed cluster error) = some "populate_failed" := by
  unfold failed
  split
  · exact .inl (kind?_structured cluster "pod_skipped" (by simp))
  · exact .inr (kind?_structured cluster "populate_failed" (by simp))

theorem find?_failed {cluster : String} {error : PopulateError}
    (whole : kind? (failed cluster error) = some "populate_failed") :
    (failed cluster error).find? "group_label" = some error.group ∧
      (failed cluster error).find? "entity_id" = some error.id ∧
      (failed cluster error).find? "metric" = some (error.metric.elim "None" fun metric =>
        "Some(" ++ Text.quoted metric ++ ")") ∧
      (failed cluster error).find? "error" = some error.message := by
  revert whole
  unfold failed
  split
  · intro whole
    rw [kind?_structured cluster "pod_skipped" (by simp)] at whole
    exact absurd (Option.some.inj whole) (by decide)
  · intro
    simp [structured, SortedMap.find?_ofList]

theorem eq_of_failed_eq {cluster : String} {a b : PopulateError}
    (whole : kind? (failed cluster a) = some "populate_failed")
    (same : failed cluster a = failed cluster b) :
    a.group = b.group ∧ a.id = b.id ∧ a.metric = b.metric ∧ a.message = b.message := by
  obtain ⟨group, id, metric, message⟩ := find?_failed whole
  obtain ⟨group', id', metric', message'⟩ := find?_failed (same ▸ whole)
  rw [same] at group id metric message
  exact ⟨Option.some.inj (group.symm.trans group'), Option.some.inj (id.symm.trans id'),
    metric_injective (Option.some.inj (metric.symm.trans metric')),
    Option.some.inj (message.symm.trans message')⟩

def isShown (shown : String → Bool) (fields : SortedMap String) : Bool := (kind? fields).any shown

section
variable {shown : String → Bool} {α : Type} {f : α → SortedMap String} {here : Bool}

theorem filter_isShown {l : List α} (h : ∀ a ∈ l, isShown shown (f a) = here) :
    (l.map f).filter (isShown shown) = if here then l.map f else [] := by
  have same : ∀ fields ∈ l.map f, isShown shown fields = here := by
    intro fields hf
    obtain ⟨a, ha, rfl⟩ := List.mem_map.1 hf
    exact h a ha
  cases here with
  | true => exact List.filter_eq_self.2 same
  | false => exact List.filter_eq_nil_iff.2 fun fields hf => Bool.eq_false_iff.1 (same fields hf)

theorem isShown_of_silent {fields : SortedMap String} (h : kind? fields = none) :
    isShown shown fields = false := by
  rw [isShown, h]
  rfl

theorem isShown_of_kind {fields : SortedMap String} {kind : String}
    (h : kind? fields = some kind) : isShown shown fields = shown kind := by
  rw [isShown, h]
  rfl

theorem isShown_failed (alike : shown "pod_skipped" = shown "populate_failed") (cluster : String)
    (error : PopulateError) : isShown shown (failed cluster error) = shown "populate_failed" := by
  rcases kind?_failed cluster error with kind | kind
  · rw [isShown_of_kind kind, alike]
  · exact isShown_of_kind kind

end

def failures (shown : String → Bool) (cluster : String) (errors : List PopulateError) :
    List (SortedMap String) :=
  if shown "populate_failed" then errors.map (failed cluster) else []

theorem filter_failed {shown : String → Bool}
    (alike : shown "pod_skipped" = shown "populate_failed") (cluster : String)
    (errors : List PopulateError) :
    (errors.map (failed cluster)).filter (isShown shown) = failures shown cluster errors :=
  filter_isShown fun error _ => isShown_failed alike cluster error

end Event

def Progress.log (cluster : String) (s : Progress) : List (SortedMap String) :=
  s.incidents.map fun i => (Event.record cluster (.incident i)).fields

namespace PopulationRun
variable (run : PopulationRun)

/-- The namespace for which a raw entity is left out; namespaces themselves never are. -/
def skippedFor? (e : RawEntity) : Option String :=
  if e.group = namespaceLabel then none else run.refusedNamespace? e

def visitErrors (e : RawEntity) : List PopulateError := (run.contribution e).errors

def visitLog (e : RawEntity) : List (SortedMap String) :=
  match run.skippedFor? e with
  | some ns => [Event.skipped run.cluster e.group e.id ns]
  | none => (run.visitErrors e).map (Event.failed run.cluster)

theorem contribution_of_skipped {e : RawEntity} {ns : String} (h : run.skippedFor? e = some ns) :
    run.contribution e = ⟨[.filtered e.group e.id ns], [], 0⟩ := by
  unfold skippedFor? at h
  split at h
  · cases h
  · rename_i other
    rw [contribution, h]
    exact if_neg other

theorem incidents_contribution {e : RawEntity} (h : run.skippedFor? e = none) :
    (run.contribution e).incidents = (run.visitErrors e).map .failed := by
  unfold visitErrors
  rw [contribution_eq]
  cases fate : run.fate e with
  | refused ns =>
    obtain ⟨other, refused⟩ := refused_of_fate fate
    rw [skippedFor?, if_neg other, refused] at h
    cases h
  | aborted cause again =>
    simp [Fate.contribution, Contribution.errors, List.filterMap_replicate, Incident.error?]
  | emitted identity emissions =>
    rw [Fate.errors_contribution_emitted, List.map_flatMap]
    simp only [Fate.contribution, Contribution.join, List.flatMap_map]
    refine List.flatMap_congr fun x _ => ?_
    rw [← x.errors_draft run.cluster]
    rfl

theorem visitErrors_of_skipped {e : RawEntity} {ns : String} (h : run.skippedFor? e = some ns) :
    run.visitErrors e = [] := by
  rw [visitErrors, run.contribution_of_skipped h]
  rfl

theorem visitLog_eq (e : RawEntity) :
    run.visitLog e = (run.skippedFor? e).toList.map (Event.skipped run.cluster e.group e.id) ++
      (run.visitErrors e).map (Event.failed run.cluster) := by
  unfold visitLog
  cases skipped : run.skippedFor? e with
  | some ns =>
    rw [run.visitErrors_of_skipped skipped]
    rfl
  | none => rfl

def shownVisit (shown : String → Bool) (e : RawEntity) : List (SortedMap String) :=
  (if shown "entity_filtered" then
    (run.skippedFor? e).toList.map (Event.skipped run.cluster e.group e.id) else []) ++
  Event.failures shown run.cluster (run.visitErrors e)

theorem filter_visitLog {shown : String → Bool}
    (alike : shown "pod_skipped" = shown "populate_failed") (e : RawEntity) :
    (run.visitLog e).filter (Event.isShown shown) = run.shownVisit shown e := by
  rw [visitLog_eq, List.filter_append, Event.filter_failed alike,
    Event.filter_isShown fun ns _ => Event.isShown_of_kind (Event.kind?_skipped _ _ _ ns)]
  rfl

theorem errors_visit (s : Progress) (e : RawEntity) :
    (run.visit s e).errors = s.errors ++ run.visitErrors e := by
  rw [visit_eq_take, Progress.errors_take]
  rfl

theorem log_visit (s : Progress) (e : RawEntity) :
    (run.visit s e).log run.cluster = s.log run.cluster ++ run.visitLog e := by
  rw [visit_eq_take, Progress.log, Progress.take, List.map_append]
  congr 1
  unfold visitLog
  cases skipped : run.skippedFor? e with
  | some ns =>
    rw [run.contribution_of_skipped skipped]
    rfl
  | none =>
    rw [run.incidents_contribution skipped, List.map_map]
    exact List.map_congr_left fun error _ => Event.fields_failureRecord run.cluster error

theorem log_foldl_visit (units : List RawEntity) (s : Progress) :
    (units.foldl run.visit s).log run.cluster = s.log run.cluster ++ units.flatMap run.visitLog := by
  induction units generalizing s with
  | nil => exact (List.append_nil _).symm
  | cons e units ih =>
    rw [List.foldl_cons, ih, log_visit, List.append_assoc]
    rfl

def lastErrors (payload : Payload) : List PopulateError :=
  (run.lastContribution run.rawEntities payload.name payload.version).errors

theorem incidents_lastContribution (units : List RawEntity) (integration version : String) :
    (run.lastContribution units integration version).incidents =
      (run.lastContribution units integration version).errors.map .failed := by
  rw [lastContribution, clusterContribution_eq]
  split
  · split <;> rfl
  · rfl

theorem log_populate (payload : Payload) :
    let population := (run.populate payload).1
    population.errors = run.rawEntities.flatMap run.visitErrors ++ run.lastErrors payload ∧
      population.incidents.map (fun i => (Event.record run.cluster (.incident i)).fields) =
        run.rawEntities.flatMap run.visitLog ++
          (run.lastErrors payload).map (Event.failed run.cluster) := by
  refine ⟨run.errors_populate_eq_append payload, ?_⟩
  have visited := run.log_foldl_visit run.rawEntities (.start payload)
  rw [foldl_visit_eq_take, Progress.log, Progress.take, List.map_append] at visited
  have visited := List.append_cancel_left visited
  change (run.total payload.name payload.version).incidents.map _ = _
  rw [total_eq_append, Contribution.append, List.map_append, visited, incidents_lastContribution,
    List.map_map]
  congr 1
  exact List.map_congr_left fun error _ => Event.fields_failureRecord run.cluster error

end PopulationRun

def Event.log (cluster : String) (shown : String → Bool) (events : List Event) :
    List (SortedMap String) :=
  (events.map fun event => (event.record cluster).fields).filter (isShown shown)

theorem Event.log_append (cluster : String) (shown : String → Bool) (a b : List Event) :
    log cluster shown (a ++ b) = log cluster shown a ++ log cluster shown b := by
  rw [log, List.map_append, List.filter_append]
  rfl

namespace CycleReport
variable (r : CycleReport) (cluster : String)

theorem kind?_event : Event.kind? (r.event.record cluster).fields = some "cycle_completed" := by
  unfold event
  split <;> exact Event.kind?_structured _ _ (by simp)

theorem errors_event :
    (r.event.record cluster).fields.find? "errors" = some (toString r.errorCount) := by
  unfold event
  split
  · exact @SortedMap.find?_ofList_last _ [_, _, _, _, _] [] "errors" (by simp) _
  · exact @SortedMap.find?_ofList_last _ [_, _, _, _] [] "errors" (by simp) _

end CycleReport

namespace DataSource
variable (source : DataSource) (ctx : CycleContext) (families : List Family) (payload : Payload)

section
variable (cluster : String) (shown : String → Bool)

theorem log_selectionEvents (input output : Nat) :
    Event.log cluster shown (source.selectionEvents input output) = [] := by
  refine Event.filter_isShown fun event he => Event.isShown_of_silent ?_
  unfold selectionEvents at he
  split at he
  · exact absurd he List.not_mem_nil
  · cases List.mem_singleton.1 he
    simp [Event.kind?, Event.record, SortedMap.find?_ofList]

theorem log_groupingEvents (grouped : Grouped) :
    Event.log cluster shown (groupingEvents grouped) =
      if shown "group_empty" then grouped.errors.map (Event.emptied cluster) else [] := by
  rw [groupingEvents, Event.log_append]
  refine (congrArg₂ (· ++ ·) ?_ ?_).trans (List.nil_append _)
  · rw [Event.log, List.map_map]
    refine Event.filter_isShown fun formed _ => Event.isShown_of_silent ?_
    simp [Event.kind?, Event.record, SortedMap.find?_ofList]
  · rw [Event.log, List.map_map]
    exact Event.filter_isShown fun error _ =>
      Event.isShown_of_kind (Event.kind?_emptied cluster error)

theorem log_event (r : CycleReport) :
    Event.log cluster shown [r.event] =
      if shown "cycle_completed" then [(r.event.record cluster).fields] else [] := by
  refine Event.filter_isShown fun event he => ?_
  rw [List.mem_singleton.1 he]
  exact Event.isShown_of_kind (r.kind?_event cluster)

end

theorem log_cycle {shown : String → Bool} (alike : shown "pod_skipped" = shown "populate_failed") :
    let run := source.population ctx families
    let cycle := source.cycle ctx families payload
    Event.log ctx.cluster shown cycle.events =
      (if shown "group_empty" then cycle.report.groupErrors.map (Event.emptied ctx.cluster)
        else []) ++
      (run.rawEntities.flatMap (run.shownVisit shown) ++
        Event.failures shown ctx.cluster (run.lastErrors payload)) ++
      if shown "cycle_completed" then [(cycle.report.event.record ctx.cluster).fields] else [] := by
  intro run cycle
  have parts : cycle.events =
      source.selectionEvents families.length (select source.queries families).length ++
        groupingEvents (source.specs.group (select source.queries families)) ++
        (run.populate payload).1.incidents.map .incident ++ [cycle.report.event] := rfl
  have populated : Event.log ctx.cluster shown
        ((run.populate payload).1.incidents.map .incident) =
      run.rawEntities.flatMap (run.shownVisit shown) ++
        Event.failures shown ctx.cluster (run.lastErrors payload) := by
    obtain ⟨-, visited⟩ := run.log_populate payload
    rw [Event.log, List.map_map]
    refine (congrArg (List.filter (Event.isShown shown)) visited).trans ?_
    rw [List.filter_append, List.filter_flatMap, Event.filter_failed alike]
    exact congrArg (· ++ _) (List.flatMap_congr fun e _ => run.filter_visitLog alike e)
  rw [parts, Event.log_append, Event.log_append, Event.log_append, log_selectionEvents,
    log_groupingEvents, populated, log_event, List.nil_append]
  rfl

/-- A cycle leaves in its log a record for each empty group, then entity by entity the note that it
was skipped or a record for each error of its visit, then those for the cluster's own entity, and
at last one record with the number of errors. A record of an error, unless it only says that a pod
was left out, is one of no other group, ID, metric or message. -/
theorem cycle_logged :
    let run := source.population ctx families
    let cycle := source.cycle ctx families payload
    let log (shown : String → Bool) := Event.log ctx.cluster shown cycle.events
    let emptied := cycle.report.groupErrors.map (Event.emptied ctx.cluster)
    ∃ last completed,
      log (fun _ => true) = emptied ++ run.rawEntities.flatMap run.visitLog ++
        last.map (Event.failed ctx.cluster) ++ [completed] ∧
      cycle.report.populateErrors = run.rawEntities.flatMap run.visitErrors ++ last ∧
      (∀ e before, (run.visit before e).errors = before.errors ++ run.visitErrors e) ∧
      (∀ e ns, run.skippedFor? e = some ns → run.visitErrors e = []) ∧
      (∀ error ∈ last, error.IsAt PopulationRun.clusterCategory ctx.cluster) ∧
      completed.find? "event" = some "cycle_completed" ∧
      completed.find? "errors" =
        some (toString (cycle.report.groupErrors.length + cycle.report.populateErrors.length)) ∧
      log (· == "group_empty") = emptied ∧
      log (· == "entity_filtered") = (run.rawEntities.flatMap fun e =>
        (run.skippedFor? e).toList.map (Event.skipped ctx.cluster e.group e.id)) ∧
      log (fun kind => kind == "pod_skipped" || kind == "populate_failed") =
        cycle.report.populateErrors.map (Event.failed ctx.cluster) ∧
      log (· == "cycle_completed") = [completed] ∧
      (∀ a b, Event.failed ctx.cluster a = Event.failed ctx.cluster b →
        Event.kind? (Event.failed ctx.cluster a) = some "populate_failed" →
          a.group = b.group ∧ a.id = b.id ∧ a.metric = b.metric ∧ a.message = b.message) := by
  intro run cycle log emptied
  have errors : cycle.report.populateErrors =
      run.rawEntities.flatMap run.visitErrors ++ run.lastErrors payload :=
    (run.log_populate payload).1
  have view {shown : String → Bool} (alike : shown "pod_skipped" = shown "populate_failed") :
      log shown = (if shown "group_empty" then emptied else []) ++
        (run.rawEntities.flatMap (run.shownVisit shown) ++
          Event.failures shown ctx.cluster (run.lastErrors payload)) ++
        if shown "cycle_completed" then [(cycle.report.event.record ctx.cluster).fields] else [] :=
    source.log_cycle ctx families payload alike
  refine ⟨run.lastErrors payload, (cycle.report.event.record ctx.cluster).fields, ?_, errors,
    fun e before => run.errors_visit before e, fun e ns => run.visitErrors_of_skipped,
    ?_, cycle.report.kind?_event ctx.cluster, cycle.report.errors_event ctx.cluster, ?_, ?_, ?_, ?_,
    fun a b same whole => Event.eq_of_failed_eq whole same⟩
  · have all : run.visitLog = run.shownVisit fun _ => true := funext run.visitLog_eq
    rw [view rfl, all, List.append_assoc emptied]
    rfl
  · intro error he
    exact run.errorsAt_lastContribution _ _ _ error (Contribution.mem_errors.1 he)
  · rw [view rfl]
    simp [PopulationRun.shownVisit, Event.failures]
  · have visits : run.shownVisit (· == "entity_filtered") = fun e =>
        (run.skippedFor? e).toList.map (Event.skipped ctx.cluster e.group e.id) :=
      funext fun e => List.append_nil _
    rw [view rfl, visits]
    simp [Event.failures]
  · have visits : (run.shownVisit fun kind => kind == "pod_skipped" || kind == "populate_failed") =
        fun e => (run.visitErrors e).map (Event.failed ctx.cluster) := rfl
    rw [view rfl, visits, errors]
    simp [Event.failures, List.map_flatMap]
  · rw [view rfl]
    simp [PopulationRun.shownVisit, Event.failures]

end DataSource
end KubeEntities
