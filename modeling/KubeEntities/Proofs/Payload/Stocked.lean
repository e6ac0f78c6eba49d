import KubeEntities.Proofs.Payload.Merge
import KubeEntities.Proofs.Payload.Sets

/-! Inventory in a payload. Inventory comes with a placement and stays with its entity, so as long as
only placements of one type bring any, no entity of another type has some (`StocksOnly.foldl_place`).
What a placement writes into one category replaces what an earlier one wrote there under the same
fields (`Inventory.overwrite_of_fields`). -/

namespace KubeEntities

namespace Inventory

theorem set_empty (category field : String) (value : Json) :
    set ∅ category field value = .singleton category (.ofList [(field, value.normal)]) := rfl

theorem set_singleton (category field : String) (fields : SortedMap Json) (value : Json) :
    set (.singleton category fields) category field value =
      .singleton category (fields.insert field value.normal) := by
  refine SortedMap.ext_find? fun key => ?_
  simp only [set, SortedMap.find?_upsert, SortedMap.find?_singleton]
  split <;> rfl

theorem overwrite_of_fields (category : String) {a b : SortedMap Json} (h : a.keys = b.keys) :
    overwrite (.singleton category a) (.singleton category b) = .singleton category b := by
  refine SortedMap.ext_find? fun key => ?_
  simp only [find?_overwrite, SortedMap.find?_singleton]
  by_cases same : key = category
  · simp [same, SortedMap.overlay_of_keys_eq h]
  · simp [same]

end Inventory

namespace Payload

theorem updateEntities_singleton {e : Entity} {name type : String} (here : e.is name type = true)
    (f : Entity → Entity) : updateEntities name type f [e] = [f e] := by
  rw [updateEntities, if_pos here]

theorem mem_updateEntities {f : Entity → Entity} {name type : String} {es : List Entity}
    {b : Entity} (h : b ∈ updateEntities name type f es) :
    b ∈ es ∨ ∃ a, (a ∈ es ∨ a = .create name type) ∧ a.is name type = true ∧ b = f a := by
  induction es with
  | nil =>
    exact .inr ⟨_, .inr rfl, Entity.is_create_self name type, List.mem_singleton.1 h⟩
  | cons e rest ih =>
    rw [updateEntities] at h
    split at h
    · rename_i here
      rcases List.mem_cons.1 h with rfl | h
      · exact .inr ⟨e, .inl List.mem_cons_self, here, rfl⟩
      · exact .inl (List.mem_cons_of_mem _ h)
    · rcases List.mem_cons.1 h with rfl | h
      · exact .inl List.mem_cons_self
      · rcases ih h with there | ⟨a, origin, here, rfl⟩
        · exact .inl (List.mem_cons_of_mem _ there)
        · exact .inr ⟨a, origin.imp_left (List.mem_cons_of_mem _), here, rfl⟩

def StocksOnly (type : String) (p : Payload) : Prop :=
  ∀ e ∈ p.entities, e.type ≠ type → e.inventory = ∅

theorem StocksOnly.place {type : String} {p : Payload} (h : p.StocksOnly type) {x : Placement}
    (allowed : x.items = [] ∨ x.type = type) : (p.place x).StocksOnly type := by
  intro e there other
  rcases mem_updateEntities there with there | ⟨a, origin, here, rfl⟩
  · exact h e there other
  · change (x.fill a).type ≠ type at other
    change (x.fill a).inventory = ∅
    rw [x.fill_eq] at other ⊢
    have kind : a.type = x.type := (Entity.is_eq_true.1 here).2
    have bare : x.items = [] := allowed.resolve_right fun same => other (kind.trans same)
    rw [x.stock_of_items_nil bare]
    rcases origin with there | rfl
    · exact h a there other
    · rfl

theorem StocksOnly.foldl_place {type : String} {l : List Placement} {p : Payload}
    (h : p.StocksOnly type) (allowed : ∀ x ∈ l, x.items = [] ∨ x.type = type) :
    (l.foldl Payload.place p).StocksOnly type := by
  induction l generalizing p with
  | nil => exact h
  | cons x l ih =>
    exact ih (h.place (allowed x List.mem_cons_self))
      fun y hy => allowed y (List.mem_cons_of_mem _ hy)

def entitiesOf (p : Payload) (name type : String) : List Entity :=
  p.entities.filter (·.is name type)

theorem entitiesOf_place (p : Payload) (x : Placement) (name type : String) :
    (p.place x).entitiesOf name type =
      if x.is name type then updateEntities x.name x.type x.fill (p.entitiesOf name type)
      else p.entitiesOf name type := by
  have selected := congrArg Payload.entities
    (p.select_place (fun n t => n == name && t == type) x)
  rw [apply_ite Payload.entities] at selected
  exact selected

theorem entitiesOf_foldl_place {l : List Placement} {name type : String}
    (others : ∀ x ∈ l, x.is name type = false) (p : Payload) :
    (l.foldl place p).entitiesOf name type = p.entitiesOf name type := by
  induction l generalizing p with
  | nil => rfl
  | cons x l ih =>
    rw [List.foldl_cons, ih fun y hy => others y (List.mem_cons_of_mem _ hy), entitiesOf_place,
      others x List.mem_cons_self]
    rfl

end Payload
end KubeEntities
