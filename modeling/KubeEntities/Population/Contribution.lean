import KubeEntities.Population.Incident
import KubeEntities.Spec
import KubeEntities.Split

/-! What one raw entity contributes to the payload. A contribution is worked out from the snapshot
and the declarations alone, without looking at the payload; contributions are placed afterwards, so
no entity can see or disturb another. -/

namespace KubeEntities

/-- A metric set, and inventory items by category and field, for the entity of this name and type. -/
structure Placement where
  name : String
  type : String
  set : MetricSet
  items : List (String × String × Json) := []

structure Contribution where
  incidents : List Incident
  placements : List Placement
  /-- metrics that were accepted -/
  written : Nat

namespace Contribution

def nothing : Contribution := ⟨[], [], 0⟩

def append (a b : Contribution) : Contribution :=
  ⟨a.incidents ++ b.incidents, a.placements ++ b.placements, a.written + b.written⟩

def join (l : List Contribution) : Contribution :=
  ⟨l.flatMap incidents, l.flatMap placements, l.foldr (·.written + ·) 0⟩

/-- The whole entity fails. -/
def failed (group id : String) (cause : Cause) : Contribution :=
  ⟨[.failed ⟨group, id, none, cause⟩], [], 0⟩

end Contribution

/-- One run of population: the snapshot, the declarations, and what all entities share. -/
structure PopulationRun where
  groups : RawGroups
  specs : SpecTable
  filter : Option (String → Bool)
  cluster : String
  k8sVersion : String
  /-- for groups without a guesser of their own -/
  guesser : Guesser

/-- A raw entity of a declared group. -/
structure RawEntity where
  group : String
  spec : SpecGroup
  id : String
  raw : RawMetrics

/-- A metric about to be written. -/
structure Write where
  name : String
  value : Fetched
  type : SourceType

/-- A scalar is one write under the declared name, a fan-out one write for each entry. -/
def Spec.writes (s : Spec) : Fetched → List Write
  | .values entries => entries.map fun (name, value) => ⟨name, value, s.type⟩
  | .typed entries => entries.map fun (name, value, type) => ⟨name, value, type⟩
  | value => [⟨s.name, value, s.type⟩]

/-- A metric set under construction. -/
structure Draft where
  set : MetricSet
  written : Nat
  errors : List PopulateError

namespace Draft

def fail (d : Draft) (group id metric : String) (cause : Cause) : Draft :=
  { d with errors := d.errors ++ [⟨group, id, some metric, cause⟩] }

def write (group id : String) (d : Draft) (w : Write) : Draft :=
  match d.set.set w.name w.value w.type with
  | .ok set => { d with set, written := d.written + 1 }
  | .error e => d.fail group id w.name (.sink e)

/-- Fetches one declared metric from a snapshot and writes what is found. -/
def fill (groups : RawGroups) (group id : String) (d : Draft) (s : Spec) : Draft :=
  match s.fetch group id groups with
  | .ok none => d
  | .ok (some found) => (s.writes found).foldl (write group id) d
  | .error e => if s.isOptional then d else d.fail group id s.name (.resolve e)

def filteredAttribute : String := "nrFiltered"

/-- Notes whether the namespace filter refuses the entity; a mark is not counted as a metric. -/
def mark (group id : String) (d : Draft) (filtered : Bool) : Draft :=
  match d.set.set filteredAttribute (.flag filtered) .attr with
  | .ok set => { d with set }
  | .error e => d.fail group id filteredAttribute (.sink e)

def contribution (d : Draft) (name type : String) : Contribution :=
  ⟨d.errors.map .failed, [{ name, type, set := d.set }], d.written⟩

end Draft

/-- A resolved identity; namespaces also carry the verdict of the filter. -/
structure Identity where
  name : String
  type : String
  filtered : Option Bool

namespace PopulationRun

/-- The verdict of the filter on an entity: the namespace that it was refused for, if any. -/
def refusedNamespace? (run : PopulationRun) (e : RawEntity) : Option String :=
  match e.spec.namespaceOf, run.filter with
  | some namespaceOf, some allows =>
    let ns := namespaceOf e.group e.id run.groups
    if allows ns then none else some ns
  | _, _ => none

/-- Whether the filter has a say on an entity at all. -/
def isSubjectToFilter (run : PopulationRun) (e : RawEntity) : Bool :=
  e.spec.namespaceOf.isSome && run.filter.isSome

/-- Split entities keep their raw ID; only unsplit ones are named by the ID generator. -/
def entityName (run : PopulationRun) (e : RawEntity) : Except ResolveError String :=
  match e.spec.split, e.spec.id with
  | none, some generate => generate e.group e.id run.groups
  | _, _ => .ok e.id

def identity (run : PopulationRun) (e : RawEntity) : Except ResolveError Identity := do
  let name ← run.entityName e
  let type ← e.spec.type e.group e.id run.groups run.cluster
  let filtered :=
    if e.group = namespaceLabel && run.isSubjectToFilter e then
      some (run.refusedNamespace? e).isSome
    else none
  return ⟨name, type, filtered⟩

/-- One metric set of an entity, filled from a snapshot. -/
def setContribution (run : PopulationRun) (e : RawEntity) (identity : Identity)
    (groups : RawGroups) : Contribution :=
  match (e.spec.guesser.getD run.guesser) e.group with
  | .error cause => .failed e.group e.id (.resolve cause)
  | .ok eventType =>
    if identity.name.isEmpty then .failed e.group e.id (.sink .emptyEntityName)
    else
      let attributes := [("displayName", identity.name), ("clusterName", run.cluster)]
      let blank : Draft := ⟨.create eventType attributes, 0, []⟩
      let marked := identity.filtered.elim blank (blank.mark e.group e.id)
      let filled := e.spec.specs.foldl (Draft.fill groups e.group e.id) marked
      filled.contribution identity.name identity.type

/-- The contribution of an entity that is not filtered out. The sub-entities of a split one see
their own part of the data only. -/
def admittedContribution (run : PopulationRun) (e : RawEntity) : Contribution :=
  match run.identity e with
  | .error cause => .failed e.group e.id (.resolve cause)
  | .ok identity =>
    match e.spec.split with
    | none => run.setContribution e identity run.groups
    | some split =>
      match e.raw.split (split.sliceMetric e.group) split.label with
      | .error cause => .failed e.group e.id (.resolve cause)
      | .ok parts => .join (parts.values.map fun part =>
          run.setContribution e identity (.only e.group e.id part))

/-- Everything that one raw entity contributes. Namespaces are reported even when they are refused. -/
def contribution (run : PopulationRun) (e : RawEntity) : Contribution :=
  match run.refusedNamespace? e with
  | some ns =>
    if e.group = namespaceLabel then run.admittedContribution e
    else ⟨[.filtered e.group e.id ns], [], 0⟩
  | none => run.admittedContribution e

end PopulationRun
end KubeEntities
