import KubeEntities.Proofs.Payload.Place

/-! Changing a payload in place. An entity is made sure of, found at a position, given a metric set
and written into there, one metric at a time. `withSet_filled` says that the outcome is a placement
of the set as it stands after the last write. -/

namespace KubeEntities

namespace Payload

def position (p : Payload) (name type : String) : Nat := p.entities.findIdx (·.is name type)

def setCount (p : Payload) (position : Nat) : Nat :=
  (p.entities[position]?).elim 0 (·.metricSets.length)

def withSet (p : Payload) (position set : Nat) (m : MetricSet) : Payload :=
  p.modifyAt position fun e => { e with metricSets := e.metricSets.set set m }

def HasSet (p : Payload) (position set : Nat) : Prop :=
  ∃ e, p.entities[position]? = some e ∧ set < e.metricSets.length

theorem modifyAt_modifyAt (p : Payload) (position : Nat) (f g : Entity → Entity) :
    (p.modifyAt position f).modifyAt position g = p.modifyAt position (g ∘ f) := by
  simp [modifyAt, List.modify_modify_eq]

theorem modifyAt_congr {p : Payload} {position : Nat} {f g : Entity → Entity}
    (same : ∀ e, p.entities[position]? = some e → f e = g e) :
    p.modifyAt position f = p.modifyAt position g := by
  simp only [modifyAt]
  congr 1
  refine List.ext_getElem? fun i => ?_
  simp only [List.getElem?_modify]
  split
  · rename_i here
    subst here
    cases there : p.entities[position]? with
    | none => rfl
    | some e => exact congrArg some (same e there)
  · rfl

theorem withSet_withSet (p : Payload) (position set : Nat) (m n : MetricSet) :
    (p.withSet position set m).withSet position set n = p.withSet position set n := by
  rw [withSet, withSet, modifyAt_modifyAt, withSet]
  congr 1
  funext e
  simp

theorem setMetric_withSet {p : Payload} {position set : Nat} (h : p.HasSet position set)
    (m : MetricSet) (name : String) (value : Fetched) (type : SourceType) :
    (p.withSet position set m).setMetric position set name value type =
      some ((m.set name value type).map (p.withSet position set)) := by
  obtain ⟨e, there, inside⟩ := h
  have entity : (p.withSet position set m).entities[position]? =
      some { e with metricSets := e.metricSets.set set m } := by
    simp [withSet, modifyAt, there]
  have held : (e.metricSets.set set m)[set]? = some m := by simp [inside]
  have replaced (n : MetricSet) : (p.withSet position set m).modifyAt position
      (fun e => { e with metricSets := e.metricSets.set set n }) = p.withSet position set n :=
    p.withSet_withSet position set m n
  simp only [setMetric, entity, Option.bind_some, held, Option.map_some, replaced]
  cases m.set name value type <;> rfl

theorem updateEntities_eq_modify {name type : String} (f : Entity → Entity) (es : List Entity) :
    updateEntities name type f es =
      (updateEntities name type id es).modify
        ((updateEntities name type id es).findIdx (·.is name type)) f := by
  induction es with
  | nil => simp [updateEntities, List.findIdx_cons, Entity.is_create_self]
  | cons e rest ih =>
    by_cases here : e.is name type = true
    · simp [updateEntities, here, List.findIdx_cons]
    · simp [updateEntities, here, List.findIdx_cons, ih]

theorem exists_at_position (name type : String) (es : List Entity) :
    ∃ e, (updateEntities name type id es)[
      (updateEntities name type id es).findIdx (·.is name type)]? = some e := by
  induction es with
  | nil => simp [updateEntities, List.findIdx_cons, Entity.is_create_self]
  | cons e rest ih =>
    by_cases here : e.is name type = true
    · simp [updateEntities, here, List.findIdx_cons]
    · simpa [updateEntities, here, List.findIdx_cons] using ih

def ensure (p : Payload) (name type : String) : Payload :=
  { p with entities := updateEntities name type id p.entities }

theorem entity_eq (p : Payload) (name type : String) :
    p.entity name type =
      if name.isEmpty then .error .emptyEntityName else .ok (p.ensure name type) := rfl

theorem exists_entity_ensure (p : Payload) (name type : String) :
    ∃ e, (p.ensure name type).entities[(p.ensure name type).position name type]? = some e :=
  exists_at_position name type p.entities

theorem modifyAt_ensure_eq_place (p : Payload) (x : Placement) (f : Entity → Entity)
    (same : ∀ e,
      (p.ensure x.name x.type).entities[(p.ensure x.name x.type).position x.name x.type]? = some e →
        f e = x.fill e) :
    (p.ensure x.name x.type).modifyAt ((p.ensure x.name x.type).position x.name x.type) f =
      p.place x := by
  rw [modifyAt_congr same, place_eq, updateEntities_eq_modify]
  rfl

section
variable (p : Payload) (x : Placement)

def slot : Nat := (p.ensure x.name x.type).position x.name x.type

def freshSet : Nat := (p.ensure x.name x.type).setCount (p.slot x)

def filled : Payload := (p.ensure x.name x.type).modifyAt (p.slot x) x.fill

theorem hasSet_filled : (p.filled x).HasSet (p.slot x) (p.freshSet x) := by
  obtain ⟨e, there⟩ := p.exists_entity_ensure x.name x.type
  refine ⟨x.fill e, ?_, ?_⟩
  · simp [filled, slot, modifyAt, there]
  · simp [freshSet, slot, setCount, there, Placement.fill_eq]

theorem filled_eq_place : p.filled x = p.place x :=
  p.modifyAt_ensure_eq_place x x.fill fun _ _ => rfl

theorem withSet_filled (m : MetricSet) :
    (p.filled x).withSet (p.slot x) (p.freshSet x) m = p.place { x with set := m } := by
  rw [filled, withSet, modifyAt_modifyAt]
  refine p.modifyAt_ensure_eq_place { x with set := m } _ fun e there => ?_
  have count : p.freshSet x = e.metricSets.length := by
    simpa [freshSet, slot, setCount] using congrArg (·.elim 0 (·.metricSets.length)) there
  simp [Placement.fill_eq, count, Placement.stock]

theorem withSet_filled_self :
    (p.filled x).withSet (p.slot x) (p.freshSet x) x.set = p.filled x := by
  rw [withSet_filled, filled_eq_place]

end
end Payload

end KubeEntities
