import KubeEntities.Proofs.StateMetrics.Attributes
import KubeEntities.Proofs.StateMetrics.Naming
import KubeEntities.Proofs.StateMetrics.Stored
import KubeEntities.Proofs.Strategy.Parents

/-! Containers and their pods. Whatever a container holds leads to one pod, that of its own
namespace and pod name (`parentId_of_container`), and what it inherits is told by the last series
that the scrape has of this pod, whether or not the pod is reported itself (`cycle_containers`). -/

namespace KubeEntities.StateMetrics
open Fetcher

/-- Names as clusters give them to namespaces and pods. -/
structure IsPodName (name : String) : Prop where
  filled : name ≠ ""
  unjoined : '_' ∉ name.toList
  plain : ':' ∉ name.toList

theorem isPodName_iff {name : String} :
    IsPodName name ↔ name ≠ "" ∧ '_' ∉ name.toList ∧ ':' ∉ name.toList :=
  ⟨fun h => ⟨h.filled, h.unjoined, h.plain⟩, fun h => ⟨h.1, h.2.1, h.2.2⟩⟩

instance (name : String) : Decidable (IsPodName name) := decidable_of_iff _ isPodName_iff.symm

def HasPodNames (families : List Family) : Prop :=
  ∀ f ∈ families, ∀ s ∈ f.series, ∀ label ∈ [namespaceLabel, podLabel],
    ∀ name ∈ s.label? label, IsPodName name

instance (families : List Family) : Decidable (HasPodNames families) :=
  inferInstanceAs (Decidable (∀ f ∈ families, ∀ s ∈ f.series,
    ∀ label ∈ [namespaceLabel, podLabel], ∀ name ∈ s.label? label, IsPodName name))

/-- The series that a scrape has of a pod under a metric. -/
def podSeries (families : List Family) (metric ns pod : String) : List Series :=
  (families.filter (·.name == metric)).flatMap fun f =>
    f.series.filter fun s => s.label? namespaceLabel == some ns && s.label? podLabel == some pod

def inheritedText? (s : Series) (name : String) : Option String :=
  (s.labels.entries.reverse.find? fun label => inheritedName label.1 == name).map (·.2)

theorem find?_inheritedLabels (s : Series) (name : String) :
    (inheritedLabels s.labels).find? name = (inheritedText? s name).map .text := by
  rw [inheritedLabels, SortedMap.find?_ofList, ← List.map_reverse, List.find?_map, inheritedText?]
  simp [Function.comp_def]

/-- The metrics that a container has of its own. -/
def ownSpecs : List Spec := containerGroup.specs.take 13

def nodeNameSpec : Spec :=
  ⟨"nodeName", inheritSome "pod" "kube_pod_info" (.singleton "nodeName" "node"), .attr, false⟩

def podLabelsSpec : Spec := labels "pod" "kube_pod_labels"

theorem specs_containerGroup :
    containerGroup.specs = ownSpecs ++ [nodeNameSpec, podLabelsSpec] := rfl

def IsInherited (key : String) : Prop := key = "nodeName" ∨ key.toList.head? = some 'l'

theorem IsInherited.avoids {key : String} (inherited : IsInherited key) :
    ∀ s ∈ ownSpecs, s.name ≠ key ∧ s.Avoids key := by
  have others : ∀ s ∈ ownSpecs, s.name ≠ "nodeName" ∧ s.name.toList.head? ≠ some 'l' := by
    simp [ownSpecs, containerGroup, attr, gauge, Spec.orNothing]
  have scalar : ∀ s ∈ ownSpecs, s.fetch.IsScalar := by
    simp [ownSpecs, containerGroup, attr, gauge, Spec.orNothing]
  intro s hs
  have own : s.name ≠ key := by
    rintro rfl
    exact inherited.elim (others s hs).1 (others s hs).2
  exact ⟨own, Spec.avoids_of_scalar (scalar s hs) own⟩

theorem ne_of_start {key : String} (start : key.toList.head? = some 'l') : "nodeName" ≠ key := by
  rintro rfl
  exact absurd start (by decide)

theorem avoids_nodeNameSpec {key : String} (other : "nodeName" ≠ key) : nodeNameSpec.Avoids key :=
  avoids_inheritSome other _ _ _ other _ _

/-- What containers inherit of their node, by the series that tells it. -/
def inheritedNode : Option Series → Except ResolveError (Option Fetched)
  | none => .error (.metricNotFound "kube_pod_info")
  | some s =>
    match s.label? "node" with
    | none => .error (.labelNotFound "kube_pod_info" "node")
    | some node => .ok (some (.values (SortedMap.singleton "nodeName" (.text node)).entries))

theorem inheritedNode_eq (info? : Option Series) :
    (∃ node, info?.bind (·.label? "node") = some node ∧ inheritedNode info? =
      .ok (some (.values (SortedMap.singleton "nodeName" (.text node)).entries))) ∨
    (info?.bind (·.label? "node") = none ∧ ∃ cause, inheritedNode info? = .error cause) := by
  cases info? with
  | none => exact .inr ⟨rfl, _, rfl⟩
  | some s => cases labelled : s.label? "node" <;> simp [inheritedNode, labelled]

/-- What containers inherit of the labels of their pod, by the series that carries them. -/
def inheritedPodLabels : Option Series → Except ResolveError (Option Fetched)
  | none => .error (.metricNotFound "kube_pod_labels")
  | some s => .ok (some (.values (inheritedLabels s.labels).entries))

/-- A container is told by these series of its pod. -/
structure ToldBy (x : Emission) (info? labels? : Option Series) : Prop where
  kind : x.unit.spec = containerGroup
  unmarked : x.identity.filtered = none
  node : nodeNameSpec.fetch x.unit.group x.unit.id x.groups = inheritedNode info?
  labels : podLabelsSpec.fetch x.unit.group x.unit.id x.groups = inheritedPodLabels labels?

namespace ToldBy
variable {x : Emission} {info? labels? : Option Series} (told : ToldBy x info? labels?)
include told

theorem draft (cluster : String) :
    x.draft cluster = ((ownSpecs.foldl (Draft.fill x.groups x.unit.group x.unit.id)
      (x.opened cluster)).fill x.groups x.unit.group x.unit.id nodeNameSpec).fill
        x.groups x.unit.group x.unit.id podLabelsSpec := by
  rw [Emission.draft, told.kind, specs_containerGroup, List.foldl_append]
  rfl

theorem errors : x.errors = (ownSpecs.flatMap fun s => s.errors x.unit.group x.unit.id x.groups) ++
    nodeNameSpec.errors x.unit.group x.unit.id x.groups := by
  have silent : podLabelsSpec.errors x.unit.group x.unit.id x.groups = [] := by
    have fetched := told.labels
    cases labels? with
    | none => exact Spec.errors_of_error _ _ _ fetched
    | some s =>
      refine Spec.errors_of_texts _ _ _ rfl fetched fun entry listed => ?_
      obtain ⟨label, text, rfl⟩ := exists_label_of_inherited listed
      exact ⟨ne_inheritedName (by decide) label, text, rfl⟩
  rw [Emission.errors, told.kind, specs_containerGroup]
  simp [silent]

theorem find?_opened {key : String} (inherited : IsInherited key) (cluster : String) :
    (ownSpecs.foldl (Draft.fill x.groups x.unit.group x.unit.id) (x.opened cluster)).set.find? key =
      none := by
  have other : key ∉ [eventTypeKey, "displayName", "clusterName"] := by
    have others : ∀ key ∈ [eventTypeKey, "displayName", "clusterName"],
        key ≠ "nodeName" ∧ key.toList.head? ≠ some 'l' := by decide
    exact fun listed => inherited.elim (others key listed).1 (others key listed).2
  rw [Draft.find?_foldl_fill x.groups fun s hs => (inherited.avoids s hs).2,
    x.find?_opened_eq_none cluster told.unmarked other]

theorem find?_nodeName (cluster : String) :
    (x.draft cluster).set.find? "nodeName" = (info?.bind (·.label? "node")).map .text := by
  have apart : podLabelsSpec.Avoids "nodeName" :=
    avoids_labels (by decide) (ne_inheritedName (by decide)) _ _
  rw [told.draft, Draft.find?_fill _ apart]
  rcases inheritedNode_eq info? with ⟨node, given, read⟩ | ⟨missing, cause, failed⟩
  · rw [Draft.find?_fill_values (told.node.trans read) (by decide), given]
    rfl
  · rw [Draft.find?_fill_of_error (told.node.trans failed),
      told.find?_opened (.inl rfl), missing]
    rfl

theorem find?_label (cluster rest : String) :
    (x.draft cluster).set.find? ("label." ++ rest) =
      (labels?.bind (inheritedText? · ("label." ++ rest))).map .text := by
  have inherited : IsInherited ("label." ++ rest) := .inr (by simp)
  have apart : nodeNameSpec.Avoids ("label." ++ rest) :=
    avoids_nodeNameSpec (ne_of_start (by simp))
  rw [told.draft]
  have fetched := told.labels
  cases labels? with
  | none =>
    rw [Draft.find?_fill_of_error fetched, Draft.find?_fill _ apart, told.find?_opened inherited]
    rfl
  | some s =>
    have named : "label." ++ rest ≠ "" := by simp
    rw [Draft.find?_fill_values fetched named, Draft.find?_fill _ apart,
      told.find?_opened inherited, find?_inheritedLabels, Option.bind_some]
    cases inheritedText? s ("label." ++ rest) <;> rfl

theorem errors_filter {key : String} (inherited : IsInherited key) :
    x.errors.filter (·.metric == some key) =
      (nodeNameSpec.errors x.unit.group x.unit.id x.groups).filter (·.metric == some key) := by
  have own : (ownSpecs.flatMap fun s => s.errors x.unit.group x.unit.id x.groups).filter
      (·.metric == some key) = [] := by
    refine List.filter_eq_nil_iff.2 fun error he => ?_
    obtain ⟨s, hs, he⟩ := List.mem_flatMap.1 he
    obtain ⟨named, avoids⟩ := inherited.avoids s hs
    simpa using Spec.metric_ne_of_avoids _ _ _ named avoids he
  rw [told.errors, List.filter_append, own, List.nil_append]

theorem errors_nodeName_of_some {node : String}
    (given : info?.bind (·.label? "node") = some node) :
    x.errors.filter (·.metric == some "nodeName") = [] := by
  rw [told.errors_filter (.inl rfl)]
  rcases inheritedNode_eq info? with ⟨_, _, read⟩ | ⟨missing, _⟩
  · rw [Spec.errors_of_texts _ _ _ rfl (told.node.trans read) (by simp [SortedMap.singleton])]
    rfl
  · cases given.symm.trans missing

theorem errors_nodeName_of_none (missing : info?.bind (·.label? "node") = none) :
    ∃ cause, x.errors.filter (·.metric == some "nodeName") =
      [⟨x.unit.group, x.unit.id, some "nodeName", cause⟩] := by
  rw [told.errors_filter (.inl rfl)]
  rcases inheritedNode_eq info? with ⟨_, given, _⟩ | ⟨_, cause, failed⟩
  · cases given.symm.trans missing
  · rw [Spec.errors_of_error _ _ _ (told.node.trans failed)]
    exact ⟨.resolve cause, rfl⟩

theorem errors_label {key : String} (start : key.toList.head? = some 'l') :
    x.errors.filter (·.metric == some key) = [] := by
  rw [told.errors_filter (.inr start)]
  refine List.filter_eq_nil_iff.2 fun error he => ?_
  have other := ne_of_start start
  simpa using Spec.metric_ne_of_avoids _ _ _ other (avoids_nodeNameSpec other) he

end ToldBy

variable {ctx : CycleContext} {families : List Family}

section
variable (names : HasPodNames families)
include names

theorem HasPodNames.isSeparable {f : Family} (hf : f ∈ families) {s : Series} (hs : s ∈ f.series)
    (group : String) : s.IsSeparable group :=
  .of_names (fun label given name labelled => (names f hf s hs label given name labelled).unjoined)
    group

theorem HasPodNames.hasPlainNamespaces : HasPlainNamespaces families :=
  fun f hf s hs ns labelled => (names f hf s hs _ List.mem_cons_self ns labelled).plain

section
variable {ns : String} (ofNs : IsPodName ns)
include ofNs

theorem seriesOf_pod (metric pod : String) :
    seriesOf families podLabel (ns ++ "_" ++ pod) metric = podSeries families metric ns pod := by
  refine List.flatMap_congr fun f hf => List.filter_congr fun s hs => ?_
  have read : rawEntityId? podLabel s = some (ns ++ "_" ++ pod) ↔
      s.Carries (requiredLabels podLabel) ∧
        (identityLabels podLabel).map s.labelText = [ns, pod] :=
    rawEntityId?_eq_some_iff [ns, pod] rfl (names.isSeparable (List.mem_filter.1 hf).1 hs podLabel)
      (by simpa using ofNs.unjoined)
  have parts : identityLabels podLabel = [namespaceLabel, podLabel] := by decide
  -- a pod without a namespace is grouped as if the namespace were empty, which no name is
  have inside : s.labelText namespaceLabel = ns ↔ s.label? namespaceLabel = some ns :=
    Series.labelText_eq_iff ofNs.filled
  have required : requiredLabels podLabel = [podLabel] := by decide
  rw [Bool.eq_iff_iff]
  simp only [beq_iff_eq, Bool.and_eq_true, read, parts, required, Series.carries_cons,
    Series.carries_nil, List.map_cons, List.map_nil, List.cons.injEq, and_true, inside]
  cases ofPod : s.label? podLabel <;> simp [Series.labelText, ofPod]

theorem find?_pod {metric : String} (named : metric ≠ "")
    (once : queries.filter (·.output == metric) = [.all metric]) (pod : String) :
    ((populationOf ctx families).groups.entity? podLabel (ns ++ "_" ++ pod)).bind
        (·.find? metric) =
      (podSeries families metric ns pod).getLast?.map .single := by
  have whole : podGroup.sliceMetric podLabel ≠ some metric := by
    simp [SpecGroup.sliceMetric, podGroup]
  rw [find?_populationOf find?_podLabel whole, seriesOf_select named once,
    seriesOf_pod names ofNs]

section
variable {pod container : String} {child : RawMetrics} (ofPod : IsPodName pod)
  (there : (populationOf ctx families).groups.entity? containerLabel
    (ns ++ "_" ++ pod ++ "_" ++ container) = some child)
include ofPod there

theorem parentIdOf?_of_container {s : Series} (inside : s ∈ child.series) :
    parentIdOf? podLabel s = some (ns ++ "_" ++ pod) := by
  obtain ⟨found, f, hf, hs⟩ := exists_family_of_holds ⟨child, there, inside⟩
  have read : rawEntityId? containerLabel s = some (ns ++ "_" ++ pod ++ "_" ++ container) ↔
      s.Carries (requiredLabels containerLabel) ∧
        (identityLabels containerLabel).map s.labelText = [ns, pod, container] :=
    rawEntityId?_eq_some_iff [ns, pod, container] rfl (names.isSeparable hf hs containerLabel)
      (by simpa using ⟨ofNs.unjoined, ofPod.unjoined⟩)
  obtain ⟨_, parts⟩ := read.1 found
  simp only [identityLabels_container, List.map_cons, List.cons.injEq] at parts
  have labelledNs := (Series.labelText_eq_iff ofNs.filled).1 parts.1
  have labelledPod := (Series.labelText_eq_iff ofPod.filled).1 parts.2.1
  rw [parentIdOf?, if_neg (by decide), nonEmptyLabel?_eq_some labelledNs ofNs.filled,
    nonEmptyLabel?_eq_some labelledPod ofPod.filled]

theorem parentId_of_container :
    parentId podLabel containerLabel (ns ++ "_" ++ pod ++ "_" ++ container)
      (populationOf ctx families).groups = .ok (ns ++ "_" ++ pod) := by
  obtain ⟨s, raw, there', inside⟩ := exists_holds_populationOf there
  cases there.symm.trans there'
  obtain ⟨first, rest, listed⟩ := List.exists_cons_of_ne_nil (List.ne_nil_of_mem inside)
  have points := parentIdOf?_of_container names ofNs ofPod there (listed ▸ List.mem_cons_self)
  rw [parentId_of_entity? there, listed, List.findSome?_cons, points]
  rfl

theorem parentSeries_of_container {metric : String} (named : metric ≠ "")
    (once : queries.filter (·.output == metric) = [.all metric]) :
    parentSeries podLabel metric containerLabel (ns ++ "_" ++ pod ++ "_" ++ container)
        (populationOf ctx families).groups =
      match (podSeries families metric ns pod).getLast? with
      | none => .error (.metricNotFound metric)
      | some s => .ok s := by
  obtain ⟨s, raw, there', inside⟩ := exists_holds_populationOf there
  cases there.symm.trans there'
  have points := parentIdOf?_of_container names ofNs ofPod there inside
  obtain ⟨⟨parent, found⟩, _⟩ := SpecTable.parent_of_mem_series
    (Option.isSome_of_eq_some find?_podLabel) (by decide) there inside points
  have stored : ((populationOf ctx families).groups.entity? podLabel _).bind (·.find? metric) =
      _ := find?_pod names ofNs named once pod
  change (populationOf ctx families).groups.entity? podLabel _ = _ at found
  rw [found, Option.bind_some] at stored
  rw [parentSeries_of_parentId (parentId_of_container names ofNs ofPod there)
    found, RawMetrics.first, stored]
  cases (podSeries families metric ns pod).getLast? <;> rfl

theorem nodeName_of_container :
    nodeNameSpec.fetch containerLabel (ns ++ "_" ++ pod ++ "_" ++ container)
        (populationOf ctx families).groups =
      inheritedNode (podSeries families "kube_pod_info" ns pod).getLast? := by
  have once : queries.filter (·.output == "kube_pod_info") = [.all "kube_pod_info"] := by
    decide +kernel
  change inheritSome podLabel _ _ _ _ _ = _
  rw [inheritSome_eq, parentSeries_of_container names ofNs ofPod there (by decide) once]
  cases (podSeries families "kube_pod_info" ns pod).getLast? with
  | none => rfl
  | some s =>
    simp only [inheritedNode, bind, Except.bind, chosenLabels, SortedMap.singleton,
      List.mapM_cons, List.mapM_nil, chosenLabel]
    cases s.label? "node" <;> rfl

theorem labels_of_container :
    podLabelsSpec.fetch containerLabel (ns ++ "_" ++ pod ++ "_" ++ container)
        (populationOf ctx families).groups =
      inheritedPodLabels (podSeries families "kube_pod_labels" ns pod).getLast? := by
  have once : queries.filter (·.output == "kube_pod_labels") = [.all "kube_pod_labels"] := by
    decide +kernel
  change inheritAll podLabel _ _ _ _ = _
  rw [inheritAll_eq, parentSeries_of_container names ofNs ofPod there (by decide) once]
  cases (podSeries families "kube_pod_labels" ns pod).getLast? <;> rfl

end

end

theorem pod_of_container {u : RawEntity} (visited : u ∈ (populationOf ctx families).rawEntities)
    (container : u.group = containerLabel) {identity : Identity}
    (resolved : (populationOf ctx families).identity u = .ok identity) :
    ∃ ns pod, IsPodName ns ∧ IsPodName pod ∧ u.id = ns ++ "_" ++ pod ++ "_" ++ identity.name ∧
      identity.type = ctx.cluster ++ ":" ++ ns ++ ":" ++ pod ++ ":" ++ containerLabel := by
  have spec := spec_of_visited visited container find?_containerLabel
  obtain ⟨named, typed⟩ := PopulationRun.identity_eq_ok _ u resolved
  rw [PopulationRun.entityName, spec] at named
  rw [spec] at typed
  obtain ⟨s, anchor, labelled⟩ := IdGenerator.fromLabel_eq_ok named
  have inside : isClusterWide u.group = false := by rw [container]; decide
  obtain ⟨ns, labelledNs, made⟩ := TypeGenerator.fromLabels_of_single anchor inside typed
  rw [if_pos container] at made
  obtain ⟨pod, labelledPod, made⟩ := made
  obtain ⟨found, f, hf, hs⟩ := exists_family_of_holds (RawGroups.holds_of_single anchor)
  have own : s.label? u.group = some identity.name := by rw [container, ← labelled]; rfl
  have joined := rawEntityId?_inNamespace inside found labelledNs own
  rw [if_pos container] at joined
  obtain ⟨pod', labelledPod', joined⟩ := joined
  cases labelledPod.symm.trans labelledPod'
  refine ⟨ns, pod, ?_, ?_, joined, container ▸ made⟩
  · exact names f hf s hs _ List.mem_cons_self ns labelledNs
  · exact names f hf s hs _ (List.mem_cons_of_mem _ List.mem_cons_self) pod labelledPod

theorem exists_toldBy_of_type {integration version : String} {e : Entity}
    (he : e ∈ ((populationOf ctx families).populate (.create integration version)).2.entities)
    {ns pod : String}
    (type : e.type = ctx.cluster ++ ":" ++ ns ++ ":" ++ pod ++ ":" ++ containerLabel) :
    ∃ u ∈ (populationOf ctx families).rawEntities, u.group = containerLabel ∧
      u.id = ns ++ "_" ++ pod ++ "_" ++ e.name ∧
      ∃ x, ((populationOf ctx families).fate u).emissions = [x] ∧ x.unit = u ∧
        e.metricSets = [(x.draft ctx.cluster).set] ∧
        ToldBy x (podSeries families "kube_pod_info" ns pod).getLast?
          (podSeries families "kube_pod_labels" ns pod).getLast? := by
  have ends : e.type = ctx.cluster ++ ":" ++ ns ++ ":" ++ pod ++ (":" ++ containerLabel) := by
    rw [type, String.append_assoc]
  obtain ⟨u, visited, container, spec, _, ⟨x, emitted, name, typed⟩, sets⟩ :=
    exists_unit_of_type find?_containerLabel (fun _ => names.hasPlainNamespaces) he ends
  have emits := PopulationRun.emits_of_mem emitted
  obtain ⟨ns', pod', ofNs, ofPod, id, typed'⟩ :=
    pod_of_container names visited container emits.resolved
  -- the two names can be read back from the type, whatever the name of the cluster is
  have same := type.symm.trans (typed.symm.trans typed')
  simp only [String.append_right_inj, String.append_assoc] at same
  simp only [← String.append_assoc, String.append_left_inj] at same
  rw [String.append_assoc, String.append_assoc] at same
  obtain ⟨rfl, rfl⟩ := Text.eq_and_eq_of_joined rfl ofNs.plain ofPod.plain same
  rw [name] at id
  obtain ⟨one, unit, groups⟩ :=
    PopulationRun.emissions_of_unsplit emitted (by rw [spec]; rfl)
  have there := (PopulationRun.mem_rawEntities.1 visited).2
  rw [container, id] at there
  refine ⟨u, visited, container, id, x, one, unit, by rw [sets, one]; rfl, unit ▸ spec, ?_, ?_, ?_⟩
  · exact PopulationRun.filtered_of_identity _ u emits.resolved (by rw [container]; decide)
  · rw [unit, groups, container, id]
    exact nodeName_of_container names ofNs ofPod there
  · rw [unit, groups, container, id]
    exact labels_of_container names ofNs ofPod there

end

/-- A container inherits from its own pod and from no other. Its node is that of the last series
which the scrape has under `kube_pod_info` for its namespace and pod, and if there is no such series
or no node in it, the container has one error about that and no node. Likewise its other labels are
those of the last series under `kube_pod_labels`, but here nothing goes wrong if there is none. It
does not matter whether the pod is reported itself. -/
theorem cycle_containers (ctx : CycleContext) (integration version : String)
    {families : List Family} (names : HasPodNames families) :
    let cycle := dataSource.cycle ctx families (.create integration version)
    ∀ e ∈ cycle.payload.entities, ∀ ns pod,
      e.type = ctx.cluster ++ ":" ++ ns ++ ":" ++ pod ++ ":" ++ containerLabel →
      let id := ns ++ "_" ++ pod ++ "_" ++ e.name
      let errors := fun metric => cycle.report.populateErrors.filter fun error =>
        error.group == containerLabel && error.id == id && error.metric == some metric
      let node? := (podSeries families "kube_pod_info" ns pod).getLast?.bind (·.label? "node")
      let labels? := (podSeries families "kube_pod_labels" ns pod).getLast?
      ∃ set, e.metricSets = [set] ∧
        set.find? "nodeName" = node?.map .text ∧
        (node?.isSome → errors "nodeName" = []) ∧
        (node? = none →
          ∃ cause, errors "nodeName" = [⟨containerLabel, id, some "nodeName", cause⟩]) ∧
        (∀ rest, set.find? ("label." ++ rest) =
          (labels?.bind (inheritedText? · ("label." ++ rest))).map .text) ∧
        errors "labels" = [] ∧ ∀ rest, errors ("label." ++ rest) = [] := by
  intro cycle e he ns pod type id errors node? labels?
  obtain ⟨u, visited, container, mine, x, one, unit, sets, told⟩ :=
    exists_toldBy_of_type names (cycle_payload ctx families _ ▸ he) type
  have reported (metric : String) : errors metric = x.errors.filter (·.metric == some metric) := by
    have apart : u.group ≠ PopulationRun.clusterCategory := by rw [container]; decide
    have all := PopulationRun.errors_populate_at visited apart (.create integration version)
    rw [← cycle_populateErrors, PopulationRun.contribution_eq,
      Fate.errors_contribution_of_mem _ _ _ _ (one ▸ List.mem_cons_self), one,
      List.flatMap_singleton, container, mine] at all
    rw [← all, List.filter_filter]
    exact List.filter_congr fun error _ => Bool.and_comm _ _
  refine ⟨_, sets, told.find?_nodeName _, ?_, ?_, told.find?_label _, ?_, ?_⟩
  · intro given
    obtain ⟨node, given⟩ := Option.isSome_iff_exists.1 given
    rw [reported, told.errors_nodeName_of_some given]
  · intro missing
    obtain ⟨cause, only⟩ := told.errors_nodeName_of_none missing
    refine ⟨cause, ?_⟩
    rw [reported, only, unit, container, mine]
  · rw [reported, told.errors_label (by decide)]
  · intro rest
    rw [reported, told.errors_label (by simp)]

/-- A container of a pod that is scheduled already and so not reported, and one of a pod of which
only the containers are known, while a pod of its name in another namespace has a node. -/
theorem cycle_containers_scheduled :
    let series (labels : List (String × String)) : Series := ⟨.ofList labels, .gauge (.ofInt 1)⟩
    let families : List Family := [
      ⟨"kube_pod_container_info", .gauge, [
        series [("namespace", "web"), ("pod", "front"), ("container", "app"), ("image", "i")],
        series [("namespace", "web"), ("pod", "back"), ("container", "app"), ("image", "i")]]⟩,
      ⟨"kube_pod_status_scheduled", .gauge, [
        series [("namespace", "web"), ("pod", "front"), ("condition", "true")]]⟩,
      ⟨"kube_pod_info", .gauge, [
        series [("namespace", "web"), ("pod", "front"), ("node", "old")],
        series [("namespace", "web"), ("pod", "front"), ("node", "new")],
        series [("namespace", "shop"), ("pod", "back"), ("node", "other")]]⟩,
      ⟨"kube_pod_labels", .gauge, [
        series [("namespace", "web"), ("pod", "front"), ("label_tier", "edge")]]⟩]
    let ctx : CycleContext := { cluster := "c", k8sVersion := "1.30" }
    let cycle := dataSource.cycle ctx families (.create "ksm" "1")
    HasPodNames families ∧
    (∀ e ∈ cycle.payload.entities, e.type ≠ "c:web:pod") ∧
    (∃ e ∈ cycle.payload.entities, e.type = "c:web:front:container" ∧
      ∃ set, e.metricSets = [set] ∧ set.find? "nodeName" = some (.text "new") ∧
        set.find? ("label." ++ "tier") = some (.text "edge")) ∧
    ∃ e ∈ cycle.payload.entities, e.type = "c:web:back:container" ∧
      (∃ set, e.metricSets = [set] ∧ set.find? "nodeName" = none ∧
        ∀ rest, set.find? ("label." ++ rest) = none) ∧
      ∃ cause, (cycle.report.populateErrors.filter fun error =>
          error.group == containerLabel && error.id == "web_back_" ++ e.name &&
            error.metric == some "nodeName") =
        [⟨containerLabel, "web_back_" ++ e.name, some "nodeName", cause⟩] := by
  intro series families ctx cycle
  have names : HasPodNames families := by decide
  have reported : ∀ type ∈ ["c:web:front:container", "c:web:back:container"],
      ∃ e ∈ cycle.payload.entities, e.type = type := by
    decide +kernel
  have told := cycle_containers ctx "ksm" "1" names
  refine ⟨names, by decide +kernel, ?_, ?_⟩
  · obtain ⟨e, he, type⟩ := reported "c:web:front:container" (by decide)
    obtain ⟨set, sets, node, _, _, labels, _⟩ := told e he "web" "front" type
    exact ⟨e, he, type, set, sets, node, labels "tier"⟩
  · obtain ⟨e, he, type⟩ := reported "c:web:back:container" (by decide)
    obtain ⟨set, sets, node, _, failed, labels, _⟩ := told e he "web" "back" type
    exact ⟨e, he, type, ⟨set, sets, node, labels⟩, failed (by decide +kernel)⟩

end KubeEntities.StateMetrics
