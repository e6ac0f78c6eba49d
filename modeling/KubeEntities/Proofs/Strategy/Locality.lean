import KubeEntities.Population

/-! What of a snapshot an entity sees. Strategies read the entity itself and the parents that it
inherits from, so the contribution of an entity is the same in two snapshots that give it the same
view (`contribution_congr`). `parents` are the groups that an entity may inherit from. -/

namespace KubeEntities

structure SameView (parents : String → Prop) (group id : String) (a b : RawGroups) : Prop where
  own : a.entity? group id = b.entity? group id
  parent : ∀ parent parentId, parents parent → Fetcher.parentId parent group id a = .ok parentId →
    a.entity? parent parentId = b.entity? parent parentId

/-- Whatever a strategy finds out about an entity is decided by the entity's view. -/
def IsLocal {α : Type} (parents : String → Prop) (read : String → String → RawGroups → α) : Prop :=
  ∀ group id a b, SameView parents group id a b → read group id a = read group id b

variable {parents : String → Prop}

theorem RawGroups.metric_congr {a b : RawGroups} {group id : String}
    (own : a.entity? group id = b.entity? group id) (key : String) :
    a.metric group id key = b.metric group id key := by
  simp only [metric, own]

namespace Fetcher

theorem labelOf_congr {a b : RawGroups} {group id : String}
    (own : a.entity? group id = b.entity? group id) (metric label : String) :
    labelOf metric label group id a = labelOf metric label group id b := by
  simp only [labelOf, RawGroups.metric_congr own]

theorem parentId_congr {a b : RawGroups} {group id : String}
    (own : a.entity? group id = b.entity? group id) (parent : String) :
    parentId parent group id a = parentId parent group id b := by
  simp only [parentId, RawGroups.entity, own]

theorem parentSeries_congr {a b : RawGroups} {group id parent : String} (inherits : parents parent)
    (view : SameView parents group id a b) (metric : String) :
    parentSeries parent metric group id a = parentSeries parent metric group id b := by
  unfold parentSeries
  rw [← parentId_congr view.own]
  cases found : parentId parent group id a with
  | error e => rfl
  | ok parentId =>
    have same := RawGroups.metric_congr (view.parent parent parentId inherits found) metric
    exact congrArg (· >>= firstSeries metric) same

theorem isLocal_fromValue (metric : String) : IsLocal parents (fromValue metric) := by
  intro group id a b view
  simp only [fromValue, RawGroups.metric_congr view.own]

theorem isLocal_fromLabel (metric label : String) : IsLocal parents (fromLabel metric label) := by
  intro group id a b view
  simp only [fromLabel, labelOf_congr view.own]

theorem isLocal_fromValuesKeyedByLabel (metric label : String) :
    IsLocal parents (fromValuesKeyedByLabel metric label) := by
  intro group id a b view
  simp only [fromValuesKeyedByLabel, RawGroups.metric_congr view.own]

theorem isLocal_inheritAll {parent : String} (inherits : parents parent) (metric : String) :
    IsLocal parents (inheritAll parent metric) := by
  intro group id a b view
  simp only [inheritAll, parentSeries_congr inherits view]

theorem isLocal_inheritSome {parent : String} (inherits : parents parent) (metric : String)
    (names : SortedMap String) : IsLocal parents (inheritSome parent metric names) := by
  intro group id a b view
  simp only [inheritSome, parentSeries_congr inherits view]

end Fetcher

theorem IdGenerator.isLocal_fromLabel (metric label : String) :
    IsLocal parents (fromLabel metric label) := by
  intro group id a b view
  simp only [fromLabel, RawGroups.metric_congr view.own]

theorem IdGenerator.isLocal_pendingPod (metric : String) : IsLocal parents (pendingPod metric) := by
  intro group id a b view
  simp only [pendingPod, RawGroups.metric_congr view.own]

theorem TypeGenerator.isLocal_fromLabels (metric : String) :
    IsLocal parents (fromLabels metric) := by
  intro group id a b view
  funext cluster
  simp only [fromLabels, requiredLabel, Fetcher.labelOf_congr view.own]

theorem NamespaceGetter.isLocal_fromLabel : IsLocal parents fromLabel := by
  intro group id a b view
  simp only [fromLabel, view.own]

structure SpecGroup.IsLocal (parents : String → Prop) (g : SpecGroup) : Prop where
  specs : ∀ s ∈ g.specs, KubeEntities.IsLocal parents s.fetch
  type : KubeEntities.IsLocal parents g.type
  id : ∀ generate ∈ g.id, KubeEntities.IsLocal parents generate
  namespaceOf : ∀ getter ∈ g.namespaceOf, KubeEntities.IsLocal parents getter

namespace Draft

theorem fill_congr {a b : RawGroups} {group id : String} (view : SameView parents group id a b)
    {s : Spec} (isLocal : IsLocal parents s.fetch) (d : Draft) :
    d.fill a group id s = d.fill b group id s := by
  simp only [fill, isLocal group id a b view]

theorem foldl_fill_congr {a b : RawGroups} {group id : String}
    (view : SameView parents group id a b) {specs : List Spec}
    (isLocal : ∀ s ∈ specs, IsLocal parents s.fetch) (d : Draft) :
    specs.foldl (fill a group id) d = specs.foldl (fill b group id) d := by
  induction specs generalizing d with
  | nil => rfl
  | cons s specs ih =>
    rw [List.foldl_cons, List.foldl_cons, fill_congr view (isLocal s List.mem_cons_self)]
    exact ih (fun s' hs => isLocal s' (List.mem_cons_of_mem _ hs)) _

end Draft

namespace PopulationRun
variable {run : PopulationRun} {groups : RawGroups} {e : RawEntity}
  (isLocal : e.spec.IsLocal parents) (view : SameView parents e.group e.id run.groups groups)
include isLocal view

theorem refusedNamespace?_congr :
    run.refusedNamespace? e = { run with groups }.refusedNamespace? e := by
  unfold refusedNamespace?
  cases declared : e.spec.namespaceOf with
  | none => rfl
  | some getter =>
    have same := isLocal.namespaceOf getter declared _ _ _ _ view
    cases run.filter with
    | none => rfl
    | some allows => simp only [same]

theorem entityName_congr : run.entityName e = { run with groups }.entityName e := by
  unfold entityName
  cases e.spec.split with
  | some split => rfl
  | none =>
    cases declared : e.spec.id with
    | none => rfl
    | some generate => exact isLocal.id generate declared _ _ _ _ view

theorem identity_congr : run.identity e = { run with groups }.identity e := by
  simp only [identity, entityName_congr isLocal view, isLocal.type _ _ _ _ view,
    refusedNamespace?_congr isLocal view, isSubjectToFilter]
  rfl

theorem setContribution_congr (identity : Identity) :
    run.setContribution e identity run.groups =
      { run with groups }.setContribution e identity groups := by
  simp only [setContribution, Draft.foldl_fill_congr view isLocal.specs]

theorem admittedContribution_congr :
    run.admittedContribution e = { run with groups }.admittedContribution e := by
  unfold admittedContribution
  rw [← identity_congr isLocal view]
  cases run.identity e with
  | error cause => rfl
  | ok identity =>
    cases e.spec.split with
    | none => exact setContribution_congr isLocal view identity
    | some split => rfl

theorem contribution_congr : run.contribution e = { run with groups }.contribution e := by
  simp only [contribution, refusedNamespace?_congr isLocal view,
    admittedContribution_congr isLocal view]

end PopulationRun
end KubeEntities
