import KubeEntities.Proofs.Population.Emission
import KubeEntities.Proofs.Population.Verdict

/-! What is written into a metric set. Whether a metric set takes a metric does not depend on what
it holds, so a draft counts the metrics that were taken and reports the others, along with whatever
could not be fetched (`written_foldl_fill`, `errors_foldl_fill`). -/

namespace KubeEntities

def PopulateError.IsAt (group id : String) (e : PopulateError) : Prop :=
  e.group = group ∧ e.id = id

namespace Write

def refusal? (w : Write) : Option SinkError :=
  match MetricSet.set ∅ w.name w.value w.type with
  | .ok _ => none
  | .error cause => some cause

def isAccepted (w : Write) : Bool := w.refusal?.isNone

theorem set_eq (w : Write) (m : MetricSet) :
    (∃ cause, w.refusal? = some cause ∧ m.set w.name w.value w.type = .error cause) ∨
      (w.refusal? = none ∧ ∃ m', m.set w.name w.value w.type = .ok m') := by
  unfold refusal? MetricSet.set
  cases w.name.isEmpty with
  | true => exact .inl ⟨_, rfl, rfl⟩
  | false =>
    cases MetricSet.stored? w.type w.value with
    | none => exact .inl ⟨_, rfl, rfl⟩
    | some stored => exact .inr ⟨rfl, _, rfl⟩

def error? (group id : String) (w : Write) : Option PopulateError :=
  w.refusal?.map fun cause => ⟨group, id, some w.name, .sink cause⟩

end Write

def Fetched.keys : Fetched → List String
  | .values entries => entries.map (·.1)
  | .typed entries => entries.map (·.1)
  | .value _ | .text _ | .flag _ => []

theorem Spec.name_of_mem_writes {s : Spec} {found : Fetched} {w : Write} (h : w ∈ s.writes found) :
    w.name = s.name ∨ w.name ∈ found.keys := by
  cases found with
  | value v => exact .inl (by rw [List.mem_singleton.1 h])
  | text t => exact .inl (by rw [List.mem_singleton.1 h])
  | flag b => exact .inl (by rw [List.mem_singleton.1 h])
  | values entries =>
    obtain ⟨entry, listed, rfl⟩ := List.mem_map.1 h
    exact .inr (List.mem_map_of_mem listed)
  | typed entries =>
    obtain ⟨entry, listed, rfl⟩ := List.mem_map.1 h
    exact .inr (List.mem_map_of_mem listed)

namespace Spec
variable (s : Spec) (group id : String) (groups : RawGroups)

/-- The metrics that were fetched: one for a scalar, one for each entry of a fan-out. -/
def attempts : List Write :=
  match s.fetch group id groups with
  | .ok (some found) => s.writes found
  | .ok none | .error _ => []

/-- Why nothing could be fetched; it does not matter for an optional metric. -/
def failure? : Option ResolveError :=
  match s.fetch group id groups with
  | .ok _ => none
  | .error cause => if s.isOptional then none else some cause

def errors : List PopulateError :=
  (s.attempts group id groups).filterMap (Write.error? group id) ++
    (s.failure? group id groups).toList.map fun cause => ⟨group, id, some s.name, .resolve cause⟩

theorem metric_of_mem_errors {error : PopulateError} (h : error ∈ s.errors group id groups) :
    error.metric = some s.name ∨ ∃ w ∈ s.attempts group id groups, error.metric = some w.name := by
  rcases List.mem_append.1 h with h | h
  · obtain ⟨w, attempted, reported⟩ := List.mem_filterMap.1 h
    obtain ⟨cause, _, rfl⟩ := Option.map_eq_some_iff.1 reported
    exact .inr ⟨w, attempted, rfl⟩
  · obtain ⟨cause, _, rfl⟩ := List.mem_map.1 h
    exact .inl rfl

theorem metric_ne_of_avoids {s : Spec} {key : String} (own : s.name ≠ key) (avoids : s.Avoids key)
    {error : PopulateError} (h : error ∈ s.errors group id groups) : error.metric ≠ some key := by
  rcases s.metric_of_mem_errors group id groups h with itself | ⟨w, attempted, named⟩
  · rw [itself]
    exact fun same => own (Option.some.inj same)
  · rw [named]
    unfold attempts at attempted
    split at attempted
    · rename_i found fetched
      exact fun same => avoids group id groups found fetched w attempted (Option.some.inj same)
    · exact absurd attempted List.not_mem_nil
    · exact absurd attempted List.not_mem_nil

theorem errors_of_error {s : Spec} {cause : ResolveError}
    (failed : s.fetch group id groups = .error cause) :
    s.errors group id groups =
      if s.isOptional then [] else [⟨group, id, some s.name, .resolve cause⟩] := by
  cases optional : s.isOptional <;> simp [errors, attempts, failure?, failed, optional]

theorem errors_of_texts {s : Spec} (type : s.type = .attr) {entries : List (String × Fetched)}
    (fetched : s.fetch group id groups = .ok (some (.values entries)))
    (texts : ∀ e ∈ entries, e.1 ≠ "" ∧ ∃ text, e.2 = .text text) :
    s.errors group id groups = [] := by
  have taken : ∀ w ∈ s.writes (.values entries), w.error? group id = none := by
    intro w hw
    obtain ⟨⟨name, value⟩, listed, rfl⟩ := List.mem_map.1 hw
    obtain ⟨named, text, rfl⟩ := texts _ listed
    have filled : name.isEmpty = false := by simpa using named
    simp [Write.error?, Write.refusal?, MetricSet.set, MetricSet.stored?, type,
      SourceType.isNumeric, Fetched.text?, filled]
  have all : (s.attempts group id groups).filterMap (Write.error? group id) = [] := by
    simp only [attempts, fetched]
    exact List.filterMap_eq_nil_iff.2 taken
  simp [errors, all, failure?, fetched]

theorem length_errors :
    (s.errors group id groups).length =
      (s.attempts group id groups).countP (!·.isAccepted) +
        (s.failure? group id groups).toList.length := by
  have refused (writes : List Write) :
      (writes.filterMap (Write.error? group id)).length = writes.countP (!·.isAccepted) := by
    rw [List.length_filterMap_eq_countP]
    congr 1
    funext w
    cases refused : w.refusal? <;> simp [Write.error?, Write.isAccepted, refused]
  rw [errors, List.length_append, refused, List.length_map]

end Spec

namespace Draft
variable (group id : String)

theorem written_write (d : Draft) (w : Write) :
    (d.write group id w).written = d.written + if w.isAccepted then 1 else 0 := by
  rcases w.set_eq d.set with ⟨cause, refused, failed⟩ | ⟨accepted, m, set⟩
  · simp [write, failed, fail, Write.isAccepted, refused]
  · simp [write, set, Write.isAccepted, accepted]

theorem errors_write (d : Draft) (w : Write) :
    (d.write group id w).errors = d.errors ++ (w.error? group id).toList := by
  rcases w.set_eq d.set with ⟨cause, refused, failed⟩ | ⟨accepted, m, set⟩
  · simp [write, failed, fail, Write.error?, refused]
  · simp [write, set, Write.error?, accepted]

theorem written_foldl_write (writes : List Write) (d : Draft) :
    (writes.foldl (write group id) d).written = d.written + writes.countP Write.isAccepted := by
  induction writes generalizing d with
  | nil => rfl
  | cons w writes ih => rw [List.foldl_cons, ih, written_write, List.countP_cons]; omega

theorem errors_foldl_write (writes : List Write) (d : Draft) :
    (writes.foldl (write group id) d).errors =
      d.errors ++ writes.filterMap (Write.error? group id) := by
  induction writes generalizing d with
  | nil => simp
  | cons w writes ih =>
    rw [List.foldl_cons, ih, errors_write, List.append_assoc]
    cases refused : w.error? group id <;> simp [refused]

variable (groups : RawGroups)

theorem written_fill (d : Draft) (s : Spec) :
    (d.fill groups group id s).written =
      d.written + (s.attempts group id groups).countP Write.isAccepted := by
  unfold fill Spec.attempts
  cases s.fetch group id groups with
  | error cause => cases s.isOptional <;> rfl
  | ok found =>
    cases found with
    | none => rfl
    | some found => exact written_foldl_write group id (s.writes found) d

theorem errors_fill (d : Draft) (s : Spec) :
    (d.fill groups group id s).errors = d.errors ++ s.errors group id groups := by
  unfold fill Spec.errors Spec.attempts Spec.failure?
  cases s.fetch group id groups with
  | error cause => cases s.isOptional <;> simp [fail]
  | ok found =>
    cases found with
    | none => simp
    | some found => simpa using errors_foldl_write group id (s.writes found) d

theorem written_foldl_fill (specs : List Spec) (d : Draft) :
    (specs.foldl (fill groups group id) d).written =
      d.written + (specs.flatMap fun s => s.attempts group id groups).countP Write.isAccepted := by
  induction specs generalizing d with
  | nil => rfl
  | cons s specs ih =>
    rw [List.foldl_cons, ih, written_fill, List.flatMap_cons, List.countP_append, Nat.add_assoc]

theorem errors_foldl_fill (specs : List Spec) (d : Draft) :
    (specs.foldl (fill groups group id) d).errors =
      d.errors ++ specs.flatMap fun s => s.errors group id groups := by
  induction specs generalizing d with
  | nil => simp
  | cons s specs ih =>
    rw [List.foldl_cons, ih, errors_fill, List.flatMap_cons, List.append_assoc]

end Draft

namespace Emission
variable (x : Emission) (cluster : String)

def attempts : List Write :=
  x.unit.spec.specs.flatMap fun s => s.attempts x.unit.group x.unit.id x.groups

def failures : List ResolveError :=
  x.unit.spec.specs.filterMap fun s => s.failure? x.unit.group x.unit.id x.groups

def errors : List PopulateError :=
  x.unit.spec.specs.flatMap fun s => s.errors x.unit.group x.unit.id x.groups

theorem opened_bookkeeping : (x.opened cluster).written = 0 ∧ (x.opened cluster).errors = [] := by
  unfold opened
  cases x.identity.filtered with
  | none => exact ⟨rfl, rfl⟩
  | some filtered =>
    simp [Draft.mark_eq]

theorem written_draft : (x.draft cluster).written = x.attempts.countP Write.isAccepted := by
  rw [draft, Draft.written_foldl_fill, (x.opened_bookkeeping cluster).1, Nat.zero_add]
  rfl

theorem errors_draft : (x.draft cluster).errors = x.errors := by
  rw [draft, Draft.errors_foldl_fill, (x.opened_bookkeeping cluster).2, List.nil_append]
  rfl

theorem length_errors :
    x.errors.length = x.attempts.countP (!·.isAccepted) + x.failures.length := by
  unfold errors attempts failures
  induction x.unit.spec.specs with
  | nil => rfl
  | cons s specs ih =>
    rw [List.flatMap_cons, List.length_append, ih, Spec.length_errors, List.flatMap_cons,
      List.countP_append, List.filterMap_cons]
    cases s.failure? x.unit.group x.unit.id x.groups <;> simp <;> omega

theorem mem_errors {error : PopulateError} :
    error ∈ x.errors ↔ ∃ s ∈ x.unit.spec.specs,
      (∃ w ∈ s.attempts x.unit.group x.unit.id x.groups, ∃ cause, w.refusal? = some cause ∧
        error = ⟨x.unit.group, x.unit.id, some w.name, .sink cause⟩) ∨
      ∃ cause, s.failure? x.unit.group x.unit.id x.groups = some cause ∧
        error = ⟨x.unit.group, x.unit.id, some s.name, .resolve cause⟩ := by
  simp only [errors, Spec.errors, Write.error?, List.mem_flatMap, List.mem_append,
    List.mem_filterMap, Option.map_eq_some_iff, List.mem_map, Option.mem_toList, @eq_comm _ error]

theorem isAt_of_mem_errors {error : PopulateError} (h : error ∈ x.errors) :
    error.IsAt x.unit.group x.unit.id := by
  obtain ⟨s, _, ⟨w, _, cause, _, rfl⟩ | ⟨cause, _, rfl⟩⟩ := x.mem_errors.1 h <;> exact ⟨rfl, rfl⟩

theorem isSome_metric_of_mem_errors {error : PopulateError} (h : error ∈ x.errors) :
    error.metric.isSome = true := by
  obtain ⟨s, _, ⟨w, _, cause, _, rfl⟩ | ⟨cause, _, rfl⟩⟩ := x.mem_errors.1 h <;> rfl

end Emission

end KubeEntities
