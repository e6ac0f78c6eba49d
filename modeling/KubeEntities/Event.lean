import KubeEntities.Json.Writer
import KubeEntities.Population.Incident

/-! The log of a run. An event says what happened; its record gives the level, the message and the
fields that are written for it. Events about the data, as opposed to the progress of a cycle, carry
an `event` field and the cluster's name. -/

namespace KubeEntities

inductive Level
  | debug
  | info
  | warn
deriving DecidableEq

def Level.name : Level → String
  | .debug => "DEBUG"
  | .info => "INFO"
  | .warn => "WARN"

structure LogRecord where
  level : Level
  message : String
  fields : SortedMap String
deriving DecidableEq

/-- Whether a level is shown under a threshold; an unknown threshold shows nothing. -/
def Level.isShown (threshold : String) : Level → Bool
  | .debug => ["trace", "debug"].contains threshold
  | .info => ["trace", "debug", "info"].contains threshold
  | .warn => ["trace", "debug", "info", "warn"].contains threshold

def LogRecord.plainLine (r : LogRecord) : String :=
  r.level.name ++ " " ++ r.message
    ++ String.join (r.fields.entries.map fun (key, value) => " " ++ key ++ "=" ++ value)

def LogRecord.jsonLine (r : LogRecord) : String :=
  let fields := r.fields.insert "message" r.message
  (Json.obj [("level", .str r.level.name),
    ("fields", .ofMap (fields.map fun _ value => .str value))]).render false

inductive Event
  | familiesSelected (input output : Nat)
  | groupFormed (group : String) (entities : Nat)
  | groupEmpty (group : String)
  | incident (i : Incident)
  | cycleCompleted (dataSource : String) (entities written errors : Nat)
  | cycleEmpty (dataSource : String) (entities errors : Nat)
  | endpointFailed (endpoint reason : String)
  | linesSkipped (endpoint : String) (errors : Nat) (first : String)
  | expositionParsed (endpoint : String) (families : Nat)
deriving DecidableEq

namespace Event

def structured (cluster kind : String) (fields : List (String × String)) : SortedMap String :=
  .ofList (("event", kind) :: ("cluster", cluster) :: fields)

def shownMetric : Option String → String
  | none => "None"
  | some metric => "Some(" ++ Text.quoted metric ++ ")"

def failureRecord (cluster : String) (e : PopulateError) : LogRecord :=
  if e.isPodScheduled then
    ⟨.debug, "Scheduled pod left to the node-level source",
      structured cluster "pod_skipped" [("entity_id", e.id)]⟩
  else
    ⟨.warn, "Population error", structured cluster "populate_failed"
      [("group_label", e.group), ("entity_id", e.id), ("metric", shownMetric e.metric),
        ("error", e.message)]⟩

def record (cluster : String) : Event → LogRecord
  | .familiesSelected input output =>
    ⟨.debug, "Filtered metric families",
      .ofList [("input", toString input), ("output", toString output)]⟩
  | .groupFormed group entities =>
    ⟨.debug, "Grouped metrics",
      .ofList [("group_label", group), ("entities", toString entities)]⟩
  | .groupEmpty group =>
    ⟨.debug, "No data for object kind", structured cluster "group_empty" [("group_label", group)]⟩
  | .incident (.filtered group id ns) =>
    ⟨.debug, "Entity skipped by namespace filter", structured cluster "entity_filtered"
      [("group_label", group), ("entity_id", id), ("namespace", ns)]⟩
  | .incident (.failed e) => failureRecord cluster e
  | .cycleCompleted dataSource entities written errors =>
    ⟨.info, "Populated integration", structured cluster "cycle_completed"
      [("data_source", dataSource), ("entities", toString entities),
        ("metrics_written", toString written), ("errors", toString errors)]⟩
  | .cycleEmpty dataSource entities errors =>
    ⟨.warn, "No metrics populated", structured cluster "cycle_completed"
      [("data_source", dataSource), ("entities", toString entities), ("errors", toString errors)]⟩
  | .endpointFailed endpoint reason =>
    ⟨.warn, "Failed to scrape endpoint", structured cluster "endpoint_failed"
      [("endpoint", endpoint), ("reason", reason)]⟩
  | .linesSkipped endpoint errors first =>
    ⟨.warn, "Skipped malformed exposition lines",
      .ofList [("endpoint", endpoint), ("errors", toString errors), ("first", first)]⟩
  | .expositionParsed endpoint families =>
    ⟨.debug, "Parsed exposition",
      .ofList [("endpoint", endpoint), ("families", toString families)]⟩

end Event
end KubeEntities
