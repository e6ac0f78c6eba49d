import KubeEntities.Proofs.Payload.Place
import KubeEntities.Proofs.SortedMap

/-! Merging payloads. The entities of one payload take in what another has under their name and
type; what none of them takes in comes after them, in its own order. Placing into a payload is the
same as placing into an empty one and merging the outcome. -/

namespace KubeEntities

namespace Inventory

/-- The fields of `b` written over those of `a`, category by category. -/
def overwrite (a b : Inventory) : Inventory :=
  SortedMap.mergeWith (fun old fields => (old.getD ∅).overlay fields) a b

theorem find?_overwrite (a b : Inventory) (category : String) :
    (overwrite a b).find? category =
      ((b.find? category).map ((a.find? category).getD ∅).overlay).or (a.find? category) :=
  SortedMap.find?_mergeWith ..

@[simp] theorem overwrite_empty (a : Inventory) : overwrite a ∅ = a := rfl

theorem overwrite_set (a b : Inventory) (category field : String) (value : Json) :
    overwrite a (b.set category field value) = (overwrite a b).set category field value := by
  refine SortedMap.ext_find? fun key => ?_
  simp only [set, find?_overwrite, SortedMap.find?_upsert]
  by_cases same : key = category
  · subst same
    cases b.find? key with
    | none => simp [SortedMap.overlay_insert]
    | some fields => simp [SortedMap.overlay_insert]
  · simp [same]

end Inventory

namespace Entity

/-- Metric sets are added after those that are there, inventory fields are written over. -/
def absorb (e x : Entity) : Entity :=
  { e with
    metricSets := e.metricSets ++ x.metricSets
    inventory := e.inventory.overwrite x.inventory }

def absorbAny (e : Entity) (x : Option Entity) : Entity := x.elim e e.absorb

theorem absorbAny_is (e : Entity) (x : Option Entity) (name type : String) :
    (e.absorbAny x).is name type = e.is name type := by
  cases x <;> rfl

theorem absorb_create (e : Entity) (name type : String) : e.absorb (.create name type) = e := by
  simp [absorb, create]

end Entity

namespace Placement

theorem stock_overwrite (x : Placement) (a b : Inventory) :
    x.stock (a.overwrite b) = a.overwrite (x.stock b) := by
  simp only [stock]
  induction x.items generalizing b with
  | nil => rfl
  | cons item items ih => rw [List.foldl_cons, List.foldl_cons, ← Inventory.overwrite_set, ih]

theorem fill_absorb (x : Placement) (e y : Entity) : x.fill (e.absorb y) = e.absorb (x.fill y) := by
  simp [fill_eq, Entity.absorb, stock_overwrite]

theorem fill_eq_absorb (x : Placement) (e : Entity) (name type : String) :
    x.fill e = e.absorb (x.fill (.create name type)) := by
  rw [← fill_absorb, Entity.absorb_create]

theorem fill_absorbAny (x : Placement) (e : Entity) (y : Option Entity) (name type : String) :
    x.fill (e.absorbAny y) = e.absorbAny (some (x.fill (y.getD (.create name type)))) := by
  cases y with
  | none => exact x.fill_eq_absorb e name type
  | some y => exact x.fill_absorb e y

end Placement

namespace Payload

/-- Walks over the entities that are there; each takes its counterpart out of those to be added. -/
def mergeEntities : List Entity → List Entity → List Entity
  | [], added => added
  | e :: rest, added =>
    e.absorbAny (added.find? (·.is e.name e.type))
      :: mergeEntities rest (added.filter fun x => !x.is e.name e.type)

def merge (p q : Payload) : Payload := { p with entities := mergeEntities p.entities q.entities }

def lacks (p : Payload) (name type : String) : Bool := !p.entities.any (·.is name type)

theorem mergeEntities_nil (es : List Entity) : mergeEntities es [] = es := by
  induction es with
  | nil => rfl
  | cons e rest ih => simp [mergeEntities, Entity.absorbAny, ih]

theorem length_mergeEntities (es added : List Entity) :
    (mergeEntities es added).length =
      es.length + (added.filter fun x => !es.any (·.is x.name x.type)).length := by
  induction es generalizing added with
  | nil =>
    have all : (added.filter fun _ => true) = added := List.filter_eq_self.2 fun _ _ => rfl
    simp [mergeEntities, all]
  | cons e rest ih =>
    have flip (x : Entity) : e.is x.name x.type = x.is e.name e.type := by
      rw [Bool.eq_iff_iff, Entity.is_eq_true, Entity.is_eq_true]
      exact and_congr eq_comm eq_comm
    have split : (added.filter fun x => !(e :: rest).any (·.is x.name x.type)) =
        (added.filter fun x => !x.is e.name e.type).filter
          fun x => !rest.any (·.is x.name x.type) := by
      rw [List.filter_filter]
      refine List.filter_congr fun x _ => ?_
      rw [List.any_cons, flip, Bool.not_or, Bool.and_comm]
    rw [mergeEntities, List.length_cons, ih, split, List.length_cons]
    omega

theorem updateEntities_mergeEntities (x : Placement) (es added : List Entity) :
    updateEntities x.name x.type x.fill (mergeEntities es added) =
      mergeEntities es (updateEntities x.name x.type x.fill added) := by
  induction es generalizing added with
  | nil => rfl
  | cons e rest ih =>
    have found := find?_updateEntities x.keepsKey_fill x.name x.type added e.name e.type
    rw [mergeEntities, mergeEntities, updateEntities, found, Entity.absorbAny_is]
    by_cases here : e.is x.name x.type = true
    · have key := Entity.is_eq_true.1 here
      have left : (updateEntities x.name x.type x.fill added).filter
          (fun y => !y.is e.name e.type) = added.filter fun y => !y.is e.name e.type :=
        filter_updateEntities_of_not x.keepsKey_fill
          (fun n t => !(n == e.name && t == e.type)) (by simp [key]) added
      rw [if_pos here, if_pos key, left, ← Placement.fill_absorbAny]
    · have key : ¬ (e.name = x.name ∧ e.type = x.type) := fun key => here (Entity.is_eq_true.2 key)
      have other : (Entity.create x.name x.type).is e.name e.type = false :=
        Entity.is_eq_false (Entity.is_create_self x.name x.type) key
      have left : (updateEntities x.name x.type x.fill added).filter
          (fun y => !y.is e.name e.type) =
            updateEntities x.name x.type x.fill (added.filter fun y => !y.is e.name e.type) :=
        filter_updateEntities x.keepsKey_fill
          (fun n t => !(n == e.name && t == e.type))
          (congrArg not other) added
      rw [if_neg here, if_neg key, left, ih]

theorem merge_place (p q : Payload) (x : Placement) :
    (p.merge q).place x = p.merge (q.place x) := by
  simp only [merge, place_eq, updateEntities_mergeEntities]

/-- What is placed into a payload is what is placed into an empty one, merged into it. -/
theorem foldl_place_eq_merge (p : Payload) (l : List Placement) (name version : String) :
    l.foldl place p = p.merge (l.foldl place (.create name version)) := by
  have onto (q : Payload) : l.foldl place (p.merge q) = p.merge (l.foldl place q) := by
    induction l generalizing q with
    | nil => rfl
    | cons x l ih => rw [List.foldl_cons, List.foldl_cons, merge_place, ih]
  rw [← onto]
  simp [merge, create, mergeEntities_nil]

end Payload
end KubeEntities
