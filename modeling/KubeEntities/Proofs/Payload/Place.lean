import KubeEntities.Population

/-! Placing into a payload. A placement changes the entity of its name and type, which it appends
when there is none; every other entity stays what and where it was. `find?_place` says so for
look-ups, `select_place` for any selection of entities by name and type. -/

namespace KubeEntities

namespace Entity

@[simp] theorem is_eq_true {e : Entity} {name type : String} :
    e.is name type = true ↔ e.name = name ∧ e.type = type := by
  simp [is]

@[simp] theorem create_name (name type : String) : (create name type).name = name := rfl

@[simp] theorem create_type (name type : String) : (create name type).type = type := rfl

theorem is_create_self (name type : String) : (create name type).is name type = true := by simp

theorem is_eq_false {e : Entity} {name type n t : String} (here : e.is name type = true)
    (other : ¬ (n = name ∧ t = type)) : e.is n t = false := by
  obtain ⟨rfl, rfl⟩ := is_eq_true.1 here
  rw [← Bool.not_eq_true, is_eq_true]
  rintro ⟨rfl, rfl⟩
  exact other ⟨rfl, rfl⟩

def KeepsKey (f : Entity → Entity) : Prop := ∀ e, (f e).name = e.name ∧ (f e).type = e.type

theorem KeepsKey.is {f : Entity → Entity} (keeps : KeepsKey f) (e : Entity) (name type : String) :
    (f e).is name type = e.is name type := by
  simp only [Entity.is, (keeps e).1, (keeps e).2]

end Entity

namespace Placement

def fill (x : Placement) (e : Entity) : Entity :=
  x.items.foldl (fun e (category, field, value) => e.setInventory category field value)
    (e.addMetricSet x.set)

def stock (x : Placement) (inventory : Inventory) : Inventory :=
  x.items.foldl (fun i (category, field, value) => i.set category field value) inventory

theorem fill_eq (x : Placement) (e : Entity) :
    x.fill e = ⟨e.name, e.type, e.metricSets ++ [x.set], x.stock e.inventory⟩ := by
  have items (l : List (String × String × Json)) (e : Entity) :
      l.foldl (fun e (category, field, value) => e.setInventory category field value) e =
        ⟨e.name, e.type, e.metricSets,
          l.foldl (fun i (category, field, value) => i.set category field value) e.inventory⟩ := by
    induction l generalizing e with
    | nil => rfl
    | cons item l ih => simp only [List.foldl_cons, ih]; rfl
  simp only [fill, items]
  rfl

theorem keepsKey_fill (x : Placement) : Entity.KeepsKey x.fill := fun e => by simp [fill_eq]

theorem stock_of_items_nil {x : Placement} (h : x.items = []) (inventory : Inventory) :
    x.stock inventory = inventory := by
  simp [stock, h]

end Placement

namespace Payload

section
variable {f : Entity → Entity} (keeps : Entity.KeepsKey f) (name type : String)
include keeps

theorem find?_updateEntities (es : List Entity) (n t : String) :
    (updateEntities name type f es).find? (·.is n t) =
      if n = name ∧ t = type then some (f ((es.find? (·.is n t)).getD (.create n t)))
      else es.find? (·.is n t) := by
  induction es with
  | nil =>
    have created : (f (.create name type)).is n t = (Entity.create name type).is n t := keeps.is ..
    by_cases same : n = name ∧ t = type
    · obtain ⟨rfl, rfl⟩ := same
      simp [updateEntities, keeps.is, Entity.is_create_self]
    · have other := Entity.is_eq_false (Entity.is_create_self name type) same
      simp [updateEntities, created, other, same]
  | cons e rest ih =>
    rw [updateEntities]
    by_cases here : e.is name type = true
    · by_cases same : n = name ∧ t = type
      · obtain ⟨rfl, rfl⟩ := same
        simp [here, keeps.is]
      · have other := Entity.is_eq_false here same
        simp [here, keeps.is, other, same]
    · rw [if_neg here]
      cases found : e.is n t with
      | true =>
        have : ¬ (n = name ∧ t = type) := by
          rintro ⟨rfl, rfl⟩
          exact here found
        simp [found, this]
      | false => simp only [List.find?_cons, found, ih]

variable {name type}

theorem filter_updateEntities (keep : String → String → Bool) (kept : keep name type = true)
    (es : List Entity) :
    (updateEntities name type f es).filter (fun e => keep e.name e.type) =
      updateEntities name type f (es.filter fun e => keep e.name e.type) := by
  induction es with
  | nil => simp [updateEntities, (keeps _).1, (keeps _).2, Entity.create, kept]
  | cons e rest ih =>
    rw [updateEntities]
    by_cases here : e.is name type = true
    · obtain ⟨rfl, rfl⟩ := Entity.is_eq_true.1 here
      simp [here, (keeps e).1, (keeps e).2, kept, updateEntities]
    · by_cases passes : keep e.name e.type = true <;> simp [here, passes, ih, updateEntities]

theorem filter_updateEntities_of_not (keep : String → String → Bool)
    (dropped : keep name type = false) (es : List Entity) :
    (updateEntities name type f es).filter (fun e => keep e.name e.type) =
      es.filter fun e => keep e.name e.type := by
  induction es with
  | nil => simp [updateEntities, (keeps _).1, (keeps _).2, Entity.create, dropped]
  | cons e rest ih =>
    rw [updateEntities]
    by_cases here : e.is name type = true
    · obtain ⟨rfl, rfl⟩ := Entity.is_eq_true.1 here
      simp [here, (keeps e).1, (keeps e).2, dropped]
    · simp [here, List.filter_cons, ih]

end

theorem place_eq (p : Payload) (x : Placement) :
    p.place x = { p with entities := updateEntities x.name x.type x.fill p.entities } := rfl

theorem entities_place_create {x : Placement} (bare : x.items = []) (name version : String) :
    ((create name version).place x).entities = [⟨x.name, x.type, [x.set], ∅⟩] := by
  simp [place_eq, create, updateEntities, x.fill_eq, x.stock_of_items_nil bare, Entity.create]

theorem find?_place (p : Payload) (x : Placement) (n t : String) :
    (p.place x).find? n t =
      if n = x.name ∧ t = x.type then some (x.fill ((p.find? n t).getD (.create n t)))
      else p.find? n t :=
  find?_updateEntities x.keepsKey_fill x.name x.type p.entities n t

/-- The entities whose name and type are among the chosen ones. -/
def select (keep : String → String → Bool) (p : Payload) : Payload :=
  { p with entities := p.entities.filter fun e => keep e.name e.type }

theorem entities_select (keep : String → String → Bool) (p : Payload) :
    (p.select keep).entities = p.entities.filter fun e => keep e.name e.type := rfl

theorem isSome_find? (p : Payload) (name type : String) :
    (p.find? name type).isSome = !(p.entities.filter (·.is name type)).isEmpty := by
  rw [find?, ← List.head?_filter]
  cases p.entities.filter (·.is name type) <;> rfl

theorem select_place (keep : String → String → Bool) (p : Payload) (x : Placement) :
    (p.place x).select keep =
      if keep x.name x.type then (p.select keep).place x else p.select keep := by
  simp only [select, place_eq]
  cases h : keep x.name x.type with
  | true => simp [filter_updateEntities x.keepsKey_fill keep h]
  | false => simp [filter_updateEntities_of_not x.keepsKey_fill keep h]

theorem select_foldl_place (keep : String → String → Bool) (l : List Placement) (p : Payload) :
    (l.foldl place p).select keep =
      (l.filter fun x => keep x.name x.type).foldl place (p.select keep) := by
  induction l generalizing p with
  | nil => rfl
  | cons x l ih =>
    rw [List.foldl_cons, ih, select_place, List.filter_cons]
    split <;> simp

theorem key_of_mem_updateEntities {f : Entity → Entity} (keeps : Entity.KeepsKey f)
    {name type : String} {es : List Entity} {b : Entity} (h : b ∈ updateEntities name type f es) :
    b.is name type = true ∨ ∃ a ∈ es, a.name = b.name ∧ a.type = b.type := by
  induction es with
  | nil =>
    rw [List.mem_singleton.1 h, keeps.is]
    exact .inl (Entity.is_create_self name type)
  | cons e rest ih =>
    rw [updateEntities] at h
    split at h
    · rename_i here
      rcases List.mem_cons.1 h with rfl | h
      · exact .inl ((keeps.is e name type).trans here)
      · exact .inr ⟨b, List.mem_cons_of_mem _ h, rfl, rfl⟩
    · rcases List.mem_cons.1 h with rfl | h
      · exact .inr ⟨b, List.mem_cons_self, rfl, rfl⟩
      · rcases ih h with here | ⟨a, ha, key⟩
        · exact .inl here
        · exact .inr ⟨a, List.mem_cons_of_mem _ ha, key⟩

theorem key_of_mem_foldl_place {l : List Placement} {p : Payload} {b : Entity}
    (h : b ∈ (l.foldl place p).entities) :
    (∃ a ∈ p.entities, a.name = b.name ∧ a.type = b.type) ∨
      ∃ x ∈ l, x.name = b.name ∧ x.type = b.type := by
  induction l generalizing p with
  | nil => exact .inl ⟨b, h, rfl, rfl⟩
  | cons x l ih =>
    rcases ih h with ⟨a, ha, name, type⟩ | ⟨y, hy, key⟩
    · rcases key_of_mem_updateEntities x.keepsKey_fill ha with here | ⟨a', ha', key⟩
      · obtain ⟨own, kind⟩ := Entity.is_eq_true.1 here
        exact .inr ⟨x, List.mem_cons_self, own.symm.trans name, kind.symm.trans type⟩
      · exact .inl ⟨a', ha', key.1.trans name, key.2.trans type⟩
    · exact .inr ⟨y, List.mem_cons_of_mem _ hy, key⟩

theorem foldl_place_name (l : List Placement) (p : Payload) :
    (l.foldl place p).name = p.name ∧ (l.foldl place p).version = p.version := by
  induction l generalizing p with
  | nil => exact ⟨rfl, rfl⟩
  | cons x l ih => exact ih (p.place x)

end Payload
end KubeEntities
