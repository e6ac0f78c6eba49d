import KubeEntities.Population.Contribution

/-! Population: the contributions of all raw entities of declared groups, in order, placed into a
payload. A run that wrote any metric also adds the cluster's own entity, last. -/

namespace KubeEntities

namespace Payload

def place (p : Payload) (x : Placement) : Payload :=
  { p with
    entities := updateEntities x.name x.type (fun e =>
      x.items.foldl (fun e (category, field, value) => e.setInventory category field value)
        (e.addMetricSet x.set)) p.entities }

end Payload

structure Population where
  populated : Bool
  metricsWritten : Nat
  /-- entities that the payload gained, the cluster's included -/
  entities : Nat
  incidents : List Incident

def Population.errors (p : Population) : List PopulateError := p.incidents.filterMap Incident.error?

namespace PopulationRun

/-- Raw entities of undeclared groups are passed over. -/
def rawEntities (run : PopulationRun) : List RawEntity :=
  run.groups.entries.flatMap fun (group, entities) =>
    match run.specs.find? group with
    | none => []
    | some spec => entities.entries.map fun (id, raw) => ⟨group, spec, id, raw⟩

def clusterEntityType : String := "k8s:cluster"

def clusterEventType : String := "K8sClusterSample"

def clusterCategory : String := "cluster"

/-- The cluster's entity: its name and server version, and in the inventory also which integration
reports them. -/
def clusterContribution (run : PopulationRun) (integration version : String) : Contribution :=
  if run.cluster.isEmpty then .failed clusterCategory run.cluster (.sink .emptyEntityName)
  else
    let blank : Draft := ⟨.create clusterEventType [], 0, []⟩
    let writes : List Write :=
      [⟨"clusterName", .text run.cluster, .attr⟩,
        ⟨"clusterK8sVersion", .text run.k8sVersion, .attr⟩]
    let filled := writes.foldl (Draft.write clusterCategory run.cluster) blank
    let items := [("name", run.cluster), ("k8sVersion", run.k8sVersion),
      ("newrelic.integrationVersion", version), ("newrelic.integrationName", integration)]
    { incidents := filled.errors.map .failed
      placements := [{
        name := run.cluster
        type := clusterEntityType
        set := filled.set
        items := items.map fun (field, text) => (clusterCategory, field, .str text) }]
      written := filled.written }

/-- The contributions of the raw entities, without the cluster's. -/
def entityContributions (run : PopulationRun) : Contribution :=
  .join (run.rawEntities.map run.contribution)

/-- All that a run contributes to a payload of this name and version. -/
def total (run : PopulationRun) (integration version : String) : Contribution :=
  let entities := run.entityContributions
  if 0 < entities.written then entities.append (run.clusterContribution integration version)
  else entities

def populate (run : PopulationRun) (payload : Payload) : Population × Payload :=
  let total := run.total payload.name payload.version
  let after := total.placements.foldl Payload.place payload
  ({ populated := 0 < total.written
     metricsWritten := total.written
     entities := after.entities.length - payload.entities.length
     incidents := total.incidents }, after)

end PopulationRun
end KubeEntities
