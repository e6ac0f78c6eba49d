import KubeEntities.Cycle
import KubeEntities.Exposition
import KubeEntities.Host

/-! Scraping: sources are tried in order until the body of one populates a payload. Every attempt
starts from an empty payload, so what is handed over stems from one source alone. -/

namespace KubeEntities

/-- Anything that yields an exposition body. -/
structure Source (m : Type → Type) where
  description : String
  fetch : m (Except SourceError String)

namespace Source
variable {m : Type → Type} [Monad m]

def file (host : Host m) (path : String) : Source m where
  description := path
  fetch := do
    match ← host.read path with
    | .ok body => return .ok body
    | .error e => return .error (.read path e)

def http (host : Host m) (url : String) (timeout : Nat) (token : Option String) : Source m where
  description := url
  fetch := host.download url token timeout

def isUrl (endpoint : String) : Bool :=
  "http://".toList.isPrefixOf endpoint.toList || "https://".toList.isPrefixOf endpoint.toList

/-- An endpoint is a URL or the path of a file. -/
def ofEndpoint (host : Host m) (timeout : Nat) (token : Option String) (endpoint : String) :
    Source m :=
  if isUrl endpoint then http host endpoint timeout token else file host endpoint

end Source

/-- Names the integration in every payload. -/
structure Scraper where
  integration : String
  version : String

structure ScrapeOutcome where
  /-- of the source that populated it, else of the last one processed -/
  payload : Payload
  report : Option CycleReport
  /-- the source that populated the payload -/
  endpoint : Option String
  sourceErrors : List (String × SourceError)
  events : List Event
  tally : Tally

def ScrapeOutcome.populated (o : ScrapeOutcome) : Bool := o.report.any (·.populated)

namespace Scraper

def blankPayload (s : Scraper) : Payload := .create s.integration s.version

def start (s : Scraper) : ScrapeOutcome := ⟨s.blankPayload, none, none, [], [], .zero⟩

/-- A source that could not be read; payload and report stay as they were. -/
def noteFailure (o : ScrapeOutcome) (endpoint : String) (e : SourceError) : ScrapeOutcome :=
  { o with
    sourceErrors := o.sourceErrors ++ [(endpoint, e)]
    events := o.events ++ [.endpointFailed endpoint e.message]
    tally := o.tally.add { endpointFailures := 1 } }

def parseEvents (endpoint : String) (exposition : Exposition) : List Event :=
  (match exposition.errors with
    | [] => []
    | first :: _ => [.linesSkipped endpoint exposition.errors.length first.message])
  ++ [.expositionParsed endpoint exposition.families.length]

/-- The cycle over a body alone, with the events and counts of parsing it. -/
def attempt (s : Scraper) (source : DataSource) (ctx : CycleContext) (endpoint body : String) :
    Cycle :=
  let exposition := Exposition.parse body
  let cycle := source.cycle ctx exposition.families s.blankPayload
  { cycle with
    events := parseEvents endpoint exposition ++ cycle.events
    tally := Tally.add { familiesScraped := exposition.families.length } cycle.tally }

/-- A processed body replaces payload and report of the attempts before it. -/
def noteCycle (o : ScrapeOutcome) (endpoint : String) (cycle : Cycle) (seconds : Number) :
    ScrapeOutcome :=
  { payload := cycle.payload
    report := some cycle.report
    endpoint := if cycle.report.populated then some endpoint else none
    sourceErrors := o.sourceErrors
    events := o.events ++ cycle.events
    tally := (o.tally.add cycle.tally).add { cycles := [seconds] } }

variable {m : Type → Type} [Monad m]

/-- Goes on from `o` with the sources that are left. `clock` counts nanoseconds. -/
def scrapeFrom (s : Scraper) (clock : m Nat) (data : DataSource) (ctx : CycleContext)
    (o : ScrapeOutcome) : List (Source m) → m ScrapeOutcome
  | [] => return o
  | source :: rest => do
    let begun ← clock
    match ← source.fetch with
    | .error e => s.scrapeFrom clock data ctx (noteFailure o source.description e) rest
    | .ok body =>
      let cycle := s.attempt data ctx source.description body
      let ended ← clock
      let o := noteCycle o source.description cycle (.ofRatio false (ended - begun) (Nat.pow 10 9))
      if cycle.report.populated then return o else s.scrapeFrom clock data ctx o rest

def scrape (s : Scraper) (clock : m Nat) (data : DataSource) (ctx : CycleContext)
    (sources : List (Source m)) : m ScrapeOutcome :=
  s.scrapeFrom clock data ctx s.start sources

end Scraper
end KubeEntities
