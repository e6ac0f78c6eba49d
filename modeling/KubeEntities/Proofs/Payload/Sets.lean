import KubeEntities.Proofs.Payload.Reorder

/-! The metric sets of one entity. An entity holds the sets that were placed under its name and
type, in the order of the placements (`setsOf_foldl_place`), and several sets placed under one name
and type are appended to one entity (`foldl_place_eq_addSets`). -/

namespace KubeEntities

def Placement.is (x : Placement) (name type : String) : Bool := x.name == name && x.type == type

@[simp] theorem Placement.is_eq_true {x : Placement} {name type : String} :
    x.is name type = true ↔ x.name = name ∧ x.type = type := by
  simp [Placement.is]

namespace Payload

def setsOf (p : Payload) (name type : String) : List MetricSet :=
  (p.find? name type).elim [] (·.metricSets)

@[simp] theorem setsOf_create (integration version name type : String) :
    (create integration version).setsOf name type = [] := rfl

theorem setsOf_place (p : Payload) (x : Placement) (name type : String) :
    (p.place x).setsOf name type =
      p.setsOf name type ++ if x.is name type then [x.set] else [] := by
  simp only [setsOf, find?_place]
  by_cases here : x.is name type = true
  · obtain ⟨rfl, rfl⟩ := Placement.is_eq_true.1 here
    cases p.find? x.name x.type <;> simp [here, Placement.fill_eq, Entity.create]
  · have elsewhere : ¬ (name = x.name ∧ type = x.type) := fun same =>
      here (Placement.is_eq_true.2 ⟨same.1.symm, same.2.symm⟩)
    simp [here, elsewhere]

theorem setsOf_foldl_place (l : List Placement) (p : Payload) (name type : String) :
    (l.foldl place p).setsOf name type =
      p.setsOf name type ++ (l.filter (·.is name type)).map (·.set) := by
  induction l generalizing p with
  | nil => simp
  | cons x l ih =>
    rw [List.foldl_cons, ih, setsOf_place, List.filter_cons]
    cases x.is name type <;> simp

theorem metricSets_of_mem_foldl_place {l : List Placement} {integration version : String}
    {e : Entity} (h : e ∈ (l.foldl place (create integration version)).entities) :
    e.metricSets = (l.filter (·.is e.name e.type)).map (·.set) := by
  have keyed : Keyed (create integration version).entities := List.Pairwise.nil
  have found : (l.foldl place (create integration version)).find? e.name e.type = some e :=
    (keyed.foldl_place l).find?_of_mem h
  have sets := setsOf_foldl_place l (create integration version) e.name e.type
  rw [setsOf_create, List.nil_append, setsOf, found] at sets
  exact sets

/-- Appends metric sets to the entity of this name and type, after the entity itself if it is not
there. Without any set nothing is appended. -/
def addSets (p : Payload) (name type : String) (sets : List MetricSet) : Payload :=
  if sets.isEmpty then p
  else { p with
    entities :=
      updateEntities name type (fun e => { e with metricSets := e.metricSets ++ sets }) p.entities }

end Payload
end KubeEntities
