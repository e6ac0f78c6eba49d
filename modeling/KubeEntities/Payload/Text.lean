import KubeEntities.Json.Writer
import KubeEntities.Payload

/-! The JSON text of a payload. Identity attributes and events are part of the protocol's shape and
are always empty. -/

namespace KubeEntities

def Stored.toJson : Stored → Json
  | .text s => .str s
  | .number x => .float x

def MetricSet.toJson (m : MetricSet) : Json := .ofMap (m.map fun _ stored => stored.toJson)

def Inventory.toJson (inventory : Inventory) : Json :=
  .ofMap (inventory.map fun _ fields => .ofMap fields)

def Entity.toJson (e : Entity) : Json :=
  .obj [
    ("entity", .obj [("name", .str e.name), ("type", .str e.type), ("id_attributes", .arr [])]),
    ("metrics", .arr (e.metricSets.map MetricSet.toJson)),
    ("inventory", e.inventory.toJson),
    ("events", .arr [])]

def Payload.toJson (p : Payload) : Json :=
  .obj [
    ("name", .str p.name),
    ("protocol_version", .str protocolVersion),
    ("integration_version", .str p.version),
    ("data", .arr (p.entities.map Entity.toJson))]

def Payload.text (p : Payload) (indented : Bool) : String := p.toJson.render indented

end KubeEntities
