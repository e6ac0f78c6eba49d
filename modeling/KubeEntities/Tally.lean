import KubeEntities.Number.Text

/-! The integration's own metrics: how much work was done, as counts that only grow, and the
durations of the cycles as a histogram. `exposition` writes them in the text format, families by
name. -/

namespace KubeEntities

structure Tally where
  familiesScraped : Nat := 0
  entitiesPopulated : Nat := 0
  metricsWritten : Nat := 0
  populationErrors : Nat := 0
  emptyGroups : Nat := 0
  endpointFailures : Nat := 0
  /-- seconds taken by each cycle, in order -/
  cycles : List Number := []
deriving DecidableEq

namespace Tally

def zero : Tally := {}

def add (a b : Tally) : Tally where
  familiesScraped := a.familiesScraped + b.familiesScraped
  entitiesPopulated := a.entitiesPopulated + b.entitiesPopulated
  metricsWritten := a.metricsWritten + b.metricsWritten
  populationErrors := a.populationErrors + b.populationErrors
  emptyGroups := a.emptyGroups + b.emptyGroups
  endpointFailures := a.endpointFailures + b.endpointFailures
  cycles := a.cycles ++ b.cycles

/-- Upper bounds of the histogram's buckets, in hundredths of a second. -/
def bucketBounds : List Nat := [1, 5, 10, 25, 50, 100, 250, 500, 1000, 3000]

def cyclesName : String := "k8s_integration_cycle_duration_seconds"

/-- A counter with its name and description. -/
structure Counter where
  name : String
  help : String
  count : Nat

def counters (t : Tally) : List Counter := [
  ⟨"k8s_integration_empty_groups_total",
    "Declared object kinds that matched no scraped series", t.emptyGroups⟩,
  ⟨"k8s_integration_endpoint_failures_total",
    "Endpoints that could not be read or parsed", t.endpointFailures⟩,
  ⟨"k8s_integration_entities_populated_total",
    "Entities created in the integration payload", t.entitiesPopulated⟩,
  ⟨"k8s_integration_families_scraped_total",
    "Metric families parsed from scraped endpoints", t.familiesScraped⟩,
  ⟨"k8s_integration_metrics_written_total",
    "Metrics successfully written into metric sets", t.metricsWritten⟩,
  ⟨"k8s_integration_population_errors_total",
    "Entity or metric population failures", t.populationErrors⟩]

/-- Buckets are cumulative: a cycle counts in each whose bound it does not exceed, and every cycle
counts in the last. -/
def buckets (t : Tally) : List (String × Nat) :=
  let sample (bound : String) (n : Nat) := (cyclesName ++ "_bucket\x7ble=\"" ++ bound ++ "\"\x7d", n)
  bucketBounds.map (fun hundredths =>
      let bound := Number.ofRatio false hundredths 100
      sample bound.text (t.cycles.filter (·.le bound)).length)
    ++ [sample "+Inf" t.cycles.length]

def cycleCount (t : Tally) : String × Nat := (cyclesName ++ "_count", t.cycles.length)

/-- Every sample that is a count. -/
def samples (t : Tally) : List (String × Nat) :=
  t.counters.map (fun c => (c.name, c.count)) ++ t.buckets ++ [t.cycleCount]

def header (name help type : String) : List String :=
  ["# HELP " ++ name ++ " " ++ help, "# TYPE " ++ name ++ " " ++ type]

def sampleLine (sample : String × Nat) : String := sample.1 ++ " " ++ toString sample.2

def cycleLines (t : Tally) : List String :=
  let seconds := t.cycles.foldl Number.add (.zero false)
  header cyclesName "Time spent on one scrape cycle" "histogram"
    ++ t.buckets.map sampleLine
    ++ [cyclesName ++ "_sum " ++ seconds.settingText, sampleLine t.cycleCount]

def counterLines (c : Counter) : List String :=
  header c.name c.help "counter" ++ [sampleLine (c.name, c.count)]

def lines (t : Tally) : List String := t.cycleLines ++ t.counters.flatMap counterLines

def exposition (t : Tally) : String := String.join (t.lines.map (· ++ "\n"))

end Tally
end KubeEntities
