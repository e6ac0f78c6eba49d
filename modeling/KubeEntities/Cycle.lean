import KubeEntities.Event
import KubeEntities.Population
import KubeEntities.Query
import KubeEntities.Tally

/-! One cycle of a data source: scraped families are selected by the queries, grouped as the spec
table declares, and populated into a payload. Besides the payload a cycle yields a report, the log
of what happened, and its share of the integration's own metrics. -/

namespace KubeEntities

structure DataSource where
  name : String
  /-- none at all keep every family -/
  queries : List Query
  specs : SpecTable

/-- What all cycles of a run share. -/
structure CycleContext where
  cluster : String
  k8sVersion : String
  filter : Option (String → Bool) := none
  guesser : Guesser := Guesser.capitalized

structure CycleReport where
  dataSource : String
  populated : Bool
  entities : Nat
  metricsWritten : Nat
  groupErrors : List GroupError
  populateErrors : List PopulateError
deriving DecidableEq

def CycleReport.errorCount (r : CycleReport) : Nat := r.groupErrors.length + r.populateErrors.length

/-- The outcome of a cycle. -/
structure Cycle where
  report : CycleReport
  payload : Payload
  events : List Event
  tally : Tally

namespace CycleContext

def populationRun (ctx : CycleContext) (groups : RawGroups) (specs : SpecTable) : PopulationRun where
  groups := groups
  specs := specs
  filter := ctx.filter
  cluster := ctx.cluster
  k8sVersion := ctx.k8sVersion
  guesser := ctx.guesser

end CycleContext

def CycleReport.event (r : CycleReport) : Event :=
  if r.populated then .cycleCompleted r.dataSource r.entities r.metricsWritten r.errorCount
  else .cycleEmpty r.dataSource r.entities r.errorCount

def GroupError.event : GroupError → Event
  | .noData group => .groupEmpty group

namespace DataSource

def selectionEvents (source : DataSource) (input output : Nat) : List Event :=
  if source.queries.isEmpty then [] else [.familiesSelected input output]

def groupingEvents (grouped : Grouped) : List Event :=
  grouped.groups.entries.map (fun (group, entities) => .groupFormed group entities.size)
    ++ grouped.errors.map GroupError.event

def cycle (source : DataSource) (ctx : CycleContext) (families : List Family) (payload : Payload) :
    Cycle :=
  let selected := select source.queries families
  let grouped := source.specs.group selected
  let (population, after) := (ctx.populationRun grouped.groups source.specs).populate payload
  let report : CycleReport := {
    dataSource := source.name
    populated := population.populated
    entities := population.entities
    metricsWritten := population.metricsWritten
    groupErrors := grouped.errors
    populateErrors := population.errors }
  { report := report
    payload := after
    events := source.selectionEvents families.length selected.length
      ++ groupingEvents grouped
      ++ population.incidents.map .incident
      ++ [report.event]
    tally := {
      emptyGroups := report.groupErrors.length
      entitiesPopulated := report.entities
      metricsWritten := report.metricsWritten
      populationErrors := report.populateErrors.length } }

end DataSource
end KubeEntities
