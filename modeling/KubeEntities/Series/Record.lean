import KubeEntities.Json.Record
import KubeEntities.Series

/-! The JSON form of series and families. A number that is not finite is written as null, and null
is not read as a number. -/

namespace KubeEntities

namespace Kind

def toJson (k : Kind) : Json := .str k.name

def ofJson? (j : Json) : Option Kind := j.bareChoice?.bind ofName?

theorem ofName?_name (k : Kind) : ofName? k.name = some k := by cases k <;> rfl

theorem ofJson?_toJson (k : Kind) : ofJson? k.toJson = some k := ofName?_name k

end Kind

namespace Value

def toJson : Value → Json
  | .counter x => .obj [("Counter", .float x)]
  | .gauge x => .obj [("Gauge", .float x)]
  | .untyped x => .obj [("Untyped", .float x)]
  | .absent => .str "NoValue"

def ofJson? (j : Json) : Option Value :=
  match j.choice? with
  | some ("Counter", some content) => content.number?.map .counter
  | some ("Gauge", some content) => content.number?.map .gauge
  | some ("Untyped", some content) => content.number?.map .untyped
  | some ("NoValue", none) => some .absent
  | some ("NoValue", some .null) => some .absent
  | _ => none

end Value

def labelsToJson (labels : Labels) : Json := .ofMap (labels.map fun _ value => .str value)

namespace Series

def toJson (s : Series) : Json :=
  .obj [("labels", labelsToJson s.labels), ("value", s.value.toJson)]

def ofJson? (j : Json) : Option Series :=
  match j.fields? ["labels", "value"] with
  | some [some labels, some value] =>
    labels.stringMap?.bind fun labels => (Value.ofJson? value).map fun value => ⟨labels, value⟩
  | _ => none

end Series

namespace Family

def toJson (f : Family) : Json :=
  .obj [("name", .str f.name), ("metric_type", f.kind.toJson),
    ("metrics", .arr (f.series.map Series.toJson))]

def ofJson? (j : Json) : Option Family :=
  match j.fields? ["name", "metric_type", "metrics"] with
  | some [some name, some kind, some series] =>
    name.str?.bind fun name => (Kind.ofJson? kind).bind fun kind =>
      (series.items?.bind (·.mapM Series.ofJson?)).map fun series => ⟨name, kind, series⟩
  | _ => none

end Family
end KubeEntities
