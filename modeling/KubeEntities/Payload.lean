import KubeEntities.Fetched
import KubeEntities.Json

/-! The payload that an integration run hands over: entities in the order of their creation, each
with metric sets and inventory. It only ever grows. An entity is identified by name and type
together. -/

namespace KubeEntities

inductive SinkError
  | emptyEntityName
  | emptyMetricName
  /-- `shown` is the refused value as a message shows it -/
  | typeMismatch (metric : String) (type : SourceType) (shown : String)
deriving DecidableEq

def SinkError.message : SinkError → String
  | .emptyEntityName => "entity name cannot be empty"
  | .emptyMetricName => "metric name cannot be empty"
  | .typeMismatch metric type shown =>
    "metric " ++ Text.quoted metric ++ " of type " ++ type.name ++ " cannot hold " ++ shown

/-- What a metric set holds under a name. -/
inductive Stored
  | text (s : String)
  | number (x : Number)
deriving DecidableEq

/-- One sample of an entity: its event type, attributes and metrics. -/
abbrev MetricSet := SortedMap Stored

def eventTypeKey : String := "event_type"

namespace MetricSet

/-- Attributes are written after the event type, the later ones over the earlier. -/
def create (eventType : String) (attributes : List (String × String)) : MetricSet :=
  attributes.foldl (fun set (key, text) => set.insert key (.text text))
    (.singleton eventTypeKey (.text eventType))

/-- Numeric source types take finite numbers, flags and texts that spell a number; attributes take
any scalar as text. -/
def stored? (type : SourceType) (value : Fetched) : Option Stored :=
  if type.isNumeric then
    match value.number? with
    | some x => if x.isFinite then some (.number x) else none
    | none => none
  else value.text?.map .text

def set (m : MetricSet) (name : String) (value : Fetched) (type : SourceType) :
    Except SinkError MetricSet :=
  if name.isEmpty then .error .emptyMetricName
  else match stored? type value with
    | none => .error (.typeMismatch name type value.display)
    | some stored => .ok (m.insert name stored)

def eventType? (m : MetricSet) : Option String :=
  match m.find? eventTypeKey with
  | some (.text s) => some s
  | _ => none

end MetricSet

/-- Items by category and field. -/
abbrev Inventory := SortedMap (SortedMap Json)

def Inventory.set (inventory : Inventory) (category field : String) (value : Json) : Inventory :=
  inventory.upsert category fun fields => (fields.getD ∅).insert field value.normal

def Inventory.item? (inventory : Inventory) (category field : String) : Option Json :=
  (inventory.find? category).bind (·.find? field)

structure Entity where
  name : String
  type : String
  metricSets : List MetricSet
  inventory : Inventory

namespace Entity

def create (name type : String) : Entity := ⟨name, type, [], ∅⟩

def is (e : Entity) (name type : String) : Bool := e.name == name && e.type == type

def addMetricSet (e : Entity) (set : MetricSet) : Entity :=
  { e with metricSets := e.metricSets ++ [set] }

def setInventory (e : Entity) (category field : String) (value : Json) : Entity :=
  { e with inventory := e.inventory.set category field value }

end Entity

structure Payload where
  name : String
  version : String
  entities : List Entity

def protocolVersion : String := "3"

namespace Payload

def create (name version : String) : Payload := ⟨name, version, []⟩

def find? (p : Payload) (name type : String) : Option Entity := p.entities.find? (·.is name type)

def ofType (p : Payload) (type : String) : List Entity := p.entities.filter (·.type == type)

/-- Changes the entity of this name and type, after appending a new one if there is none. -/
def updateEntities (name type : String) (f : Entity → Entity) : List Entity → List Entity
  | [] => [f (.create name type)]
  | e :: rest => if e.is name type then f e :: rest else e :: updateEntities name type f rest

def update (p : Payload) (name type : String) (f : Entity → Entity) : Except SinkError Payload :=
  if name.isEmpty then .error .emptyEntityName
  else .ok { p with entities := updateEntities name type f p.entities }

/-- Makes sure that the entity exists. -/
def entity (p : Payload) (name type : String) : Except SinkError Payload := p.update name type id

/-- Changes the entity at a position; past the end nothing changes. -/
def modifyAt (p : Payload) (position : Nat) (f : Entity → Entity) : Payload :=
  { p with entities := p.entities.modify position f }

def addMetricSet (p : Payload) (position : Nat) (eventType : String)
    (attributes : List (String × String)) : Payload :=
  p.modifyAt position (·.addMetricSet (.create eventType attributes))

def setInventory (p : Payload) (position : Nat) (category field : String) (value : Json) : Payload :=
  p.modifyAt position (·.setInventory category field value)

/-- Writes one metric into a set of an entity; a refused write leaves everything as it was. -/
def setMetric (p : Payload) (position set : Nat) (name : String) (value : Fetched)
    (type : SourceType) : Option (Except SinkError Payload) :=
  (p.entities[position]?).bind fun e => (e.metricSets[set]?).map fun m =>
    match m.set name value type with
    | .error e => .error e
    | .ok m => .ok (p.modifyAt position fun e => { e with metricSets := e.metricSets.set set m })

end Payload
end KubeEntities
