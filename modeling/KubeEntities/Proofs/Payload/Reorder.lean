import KubeEntities.Proofs.Payload.Merge
import Mathlib.Data.List.Forall2

/-! Payloads up to order. Placements without inventory may come in any order: what every name and
type stands for stays the same up to the order of metric sets, and so does the payload up to the
order of entities. Sameness is followed through look-ups, since entities that are appended may come
to stand anywhere. -/

namespace KubeEntities

namespace Entity

structure SameUpToOrder (a b : Entity) : Prop where
  name : a.name = b.name
  type : a.type = b.type
  metricSets : a.metricSets.Perm b.metricSets
  inventory : a.inventory = b.inventory

namespace SameUpToOrder

theorem refl (e : Entity) : e.SameUpToOrder e := ⟨rfl, rfl, .refl _, rfl⟩

theorem trans {a b c : Entity} (h : a.SameUpToOrder b) (h' : b.SameUpToOrder c) :
    a.SameUpToOrder c :=
  ⟨h.name.trans h'.name, h.type.trans h'.type, h.metricSets.trans h'.metricSets,
    h.inventory.trans h'.inventory⟩

theorem fill {a b : Entity} (h : a.SameUpToOrder b) (x : Placement) :
    (x.fill a).SameUpToOrder (x.fill b) := by
  simp only [Placement.fill_eq]
  exact ⟨h.name, h.type, h.metricSets.append_right _, congrArg x.stock h.inventory⟩

theorem absorb (e : Entity) {a b : Entity} (h : a.SameUpToOrder b) :
    (e.absorb a).SameUpToOrder (e.absorb b) :=
  ⟨rfl, rfl, h.metricSets.append_left _, congrArg e.inventory.overwrite h.inventory⟩

theorem fill_swap (e : Entity) {x y : Placement} (hx : x.items = []) (hy : y.items = []) :
    (y.fill (x.fill e)).SameUpToOrder (x.fill (y.fill e)) := by
  simp only [Placement.fill_eq, Placement.stock_of_items_nil hx, Placement.stock_of_items_nil hy,
    List.append_assoc]
  exact ⟨rfl, rfl, (List.Perm.swap _ _ _).append_left _, rfl⟩

end SameUpToOrder
end Entity

namespace Payload

def Agree (p q : List Entity) : Prop :=
  ∀ name type, Option.Rel Entity.SameUpToOrder (p.find? (·.is name type)) (q.find? (·.is name type))

theorem rel_refl (a : Option Entity) : Option.Rel Entity.SameUpToOrder a a := by
  cases a with
  | none => exact .none
  | some e => exact .some (.refl e)

theorem rel_trans {a b c : Option Entity} (h : Option.Rel Entity.SameUpToOrder a b)
    (h' : Option.Rel Entity.SameUpToOrder b c) : Option.Rel Entity.SameUpToOrder a c := by
  cases h with
  | none => exact h'
  | some h =>
    cases h' with
    | some h' => exact .some (h.trans h')

namespace Agree

theorem refl (p : List Entity) : Agree p p := fun _ _ => rel_refl _

theorem trans {p q r : List Entity} (h : Agree p q) (h' : Agree q r) : Agree p r :=
  fun name type => rel_trans (h name type) (h' name type)

theorem getD {p q : List Entity} (h : Agree p q) (name type : String) :
    ((p.find? (·.is name type)).getD (.create name type)).SameUpToOrder
      ((q.find? (·.is name type)).getD (.create name type)) := by
  have same := h name type
  generalize p.find? (·.is name type) = a at same
  generalize q.find? (·.is name type) = b at same
  cases same with
  | none => exact .refl _
  | some same => exact same

theorem place {p q : Payload} (h : Agree p.entities q.entities) (x : Placement) :
    Agree (p.place x).entities (q.place x).entities := by
  intro name type
  have left := p.find?_place x name type
  have right := q.find?_place x name type
  simp only [find?] at left right
  rw [left, right]
  split
  · exact .some ((h.getD name type).fill x)
  · exact h name type

theorem foldl_place {p q : Payload} (h : Agree p.entities q.entities) (l : List Placement) :
    Agree (l.foldl Payload.place p).entities (l.foldl Payload.place q).entities := by
  induction l generalizing p q with
  | nil => exact h
  | cons x l ih => exact ih (h.place x)

theorem place_swap (p : Payload) {x y : Placement} (hx : x.items = []) (hy : y.items = []) :
    Agree ((p.place x).place y).entities ((p.place y).place x).entities := by
  intro name type
  have left := (p.place x).find?_place y name type
  have right := (p.place y).find?_place x name type
  rw [p.find?_place x] at left
  rw [p.find?_place y] at right
  simp only [find?] at left right
  rw [left, right]
  by_cases onX : name = x.name ∧ type = x.type
  · by_cases onY : name = y.name ∧ type = y.type
    · simp only [if_pos onX, if_pos onY, Option.getD_some]
      exact .some (.fill_swap _ hx hy)
    · simp only [if_pos onX, if_neg onY]
      exact rel_refl _
  · by_cases onY : name = y.name ∧ type = y.type
    · simp only [if_neg onX, if_pos onY]
      exact rel_refl _
    · simp only [if_neg onX, if_neg onY]
      exact rel_refl _

theorem of_perm {l l' : List Placement} (h : l.Perm l') (bare : ∀ x ∈ l, x.items = [])
    (p : Payload) :
    Agree (l.foldl Payload.place p).entities (l'.foldl Payload.place p).entities := by
  induction h generalizing p with
  | nil => exact refl _
  | cons x _ ih => exact ih (fun y hy => bare y (List.mem_cons_of_mem _ hy)) (p.place x)
  | swap x y l =>
    have hx : x.items = [] := bare x (List.mem_cons_of_mem _ List.mem_cons_self)
    have hy : y.items = [] := bare y List.mem_cons_self
    exact foldl_place (place_swap p hy hx) l
  | trans h _ ih ih' =>
    exact (ih bare p).trans (ih' (fun x hx => bare x (h.mem_iff.2 hx)) p)

end Agree

def Keyed (es : List Entity) : Prop := es.Pairwise fun a b => ¬ (a.name = b.name ∧ a.type = b.type)

namespace Keyed

theorem updateEntities {f : Entity → Entity} (keeps : Entity.KeepsKey f) (name type : String)
    {es : List Entity} (h : Keyed es) : Keyed (updateEntities name type f es) := by
  induction es with
  | nil => exact List.pairwise_singleton _ _
  | cons e rest ih =>
    have ⟨first, later⟩ := List.pairwise_cons.1 h
    rw [Payload.updateEntities]
    split
    · refine List.pairwise_cons.2 ⟨fun b hb => ?_, later⟩
      rw [(keeps e).1, (keeps e).2]
      exact first b hb
    · rename_i elsewhere
      refine List.pairwise_cons.2 ⟨fun b hb same => ?_, ih later⟩
      rcases key_of_mem_updateEntities keeps hb with here | ⟨a, ha, key⟩
      · rw [Entity.is_eq_true, ← same.1, ← same.2] at here
        exact elsewhere (Entity.is_eq_true.2 here)
      · exact first a ha ⟨same.1.trans key.1.symm, same.2.trans key.2.symm⟩

theorem foldl_place {p : Payload} (h : Keyed p.entities) (l : List Placement) :
    Keyed (l.foldl place p).entities := by
  induction l generalizing p with
  | nil => exact h
  | cons x l ih => exact ih (h.updateEntities x.keepsKey_fill x.name x.type)

theorem find?_of_mem {es : List Entity} (h : Keyed es) {e : Entity} (he : e ∈ es) :
    es.find? (·.is e.name e.type) = some e := by
  induction es with
  | nil => exact absurd he List.not_mem_nil
  | cons a rest ih =>
    have ⟨first, later⟩ := List.pairwise_cons.1 h
    rcases List.mem_cons.1 he with rfl | he
    · have here : e.is e.name e.type = true := Entity.is_eq_true.2 ⟨rfl, rfl⟩
      simp [here]
    · have other : a.is e.name e.type = false := by
        rw [← Bool.not_eq_true, Entity.is_eq_true]
        exact first e he
      simp [other, ih later he]

theorem nodup {es : List Entity} (h : Keyed es) : es.Nodup :=
  List.Pairwise.imp (fun differ same => differ ⟨congrArg _ same, congrArg _ same⟩) h

theorem filter {es : List Entity} (h : Keyed es) (keep : Entity → Bool) : Keyed (es.filter keep) :=
  List.Pairwise.filter keep h

end Keyed

/-- The same entities in any order, each up to the order of its metric sets. -/
def SameEntities (a b : List Entity) : Prop :=
  ∃ c, c.Perm a ∧ List.Forall₂ Entity.SameUpToOrder c b

namespace SameEntities

theorem cons {a b : List Entity} {e e' : Entity} (first : e.SameUpToOrder e')
    (rest : SameEntities a b) : SameEntities (e :: a) (e' :: b) := by
  obtain ⟨c, perm, same⟩ := rest
  exact ⟨e :: c, perm.cons e, .cons first same⟩

theorem length {a b : List Entity} (h : SameEntities a b) : a.length = b.length := by
  obtain ⟨c, perm, same⟩ := h
  rw [← perm.length_eq, same.length_eq]

theorem of_agree {a b : List Entity} (ha : Keyed a) (hb : Keyed b) (h : Agree a b) :
    SameEntities a b := by
  let partner (e : Entity) : Entity := (a.find? (·.is e.name e.type)).getD e
  have found {e : Entity} (he : e ∈ b) :
      a.find? (·.is e.name e.type) = some (partner e) ∧ (partner e).SameUpToOrder e := by
    have same := h e.name e.type
    rw [hb.find?_of_mem he] at same
    simp only [partner]
    generalize a.find? (·.is e.name e.type) = x at same
    cases same with
    | some same => exact ⟨rfl, same⟩
  have keyed : Keyed (b.map partner) := by
    refine List.pairwise_map.2 (hb.imp_of_mem fun {x y} hx hy differ same => differ ?_)
    have left := (found hx).2
    have right := (found hy).2
    exact ⟨left.name.symm.trans (same.1.trans right.name),
      left.type.symm.trans (same.2.trans right.type)⟩
  have members (e : Entity) : e ∈ b.map partner ↔ e ∈ a := by
    constructor
    · intro he
      obtain ⟨x, hx, rfl⟩ := List.mem_map.1 he
      exact List.mem_of_find?_eq_some (found hx).1
    · intro he
      have same := h e.name e.type
      rw [ha.find?_of_mem he] at same
      cases there : b.find? (·.is e.name e.type) with
      | none => rw [there] at same; cases same
      | some x =>
        rw [there] at same
        cases same with
        | some same =>
          refine List.mem_map.2 ⟨x, List.mem_of_find?_eq_some there, ?_⟩
          simp only [partner, ← same.name, ← same.type, ha.find?_of_mem he, Option.getD_some]
  refine ⟨b.map partner, (List.perm_ext_iff_of_nodup keyed.nodup ha.nodup).2 members, ?_⟩
  exact List.forall₂_map_left_iff.2 (List.forall₂_same.2 fun e he => (found he).2)

end SameEntities

theorem find?_filter_is (added : List Entity) (name type n t : String) :
    (added.filter fun x => !x.is name type).find? (·.is n t) =
      if n = name ∧ t = type then none else added.find? (·.is n t) := by
  split
  · rename_i same
    obtain ⟨rfl, rfl⟩ := same
    rw [List.find?_eq_none]
    intro x hx here
    have dropped := (List.mem_filter.1 hx).2
    rw [here] at dropped
    contradiction
  · rename_i differ
    rw [List.find?_filter]
    congr 1
    funext x
    cases there : x.is n t with
    | false => simp
    | true => simpa using Entity.is_eq_false there fun same => differ ⟨same.1.symm, same.2.symm⟩

theorem sameEntities_mergeEntities (es : List Entity) {a b : List Entity} (ha : Keyed a)
    (hb : Keyed b) (h : Agree a b) : SameEntities (mergeEntities es a) (mergeEntities es b) := by
  induction es generalizing a b with
  | nil => exact .of_agree ha hb h
  | cons e rest ih =>
    have first : (e.absorbAny (a.find? (·.is e.name e.type))).SameUpToOrder
        (e.absorbAny (b.find? (·.is e.name e.type))) := by
      have same := h e.name e.type
      generalize a.find? (·.is e.name e.type) = x at same
      generalize b.find? (·.is e.name e.type) = y at same
      cases same with
      | none => exact .refl e
      | some same => exact same.absorb e
    refine .cons first (ih (ha.filter _) (hb.filter _) fun name type => ?_)
    simp only [find?_filter_is]
    split
    · exact .none
    · exact h name type

/-- The same payload up to the order of entities, and of metric sets inside an entity. -/
structure SameUpToOrder (p q : Payload) : Prop where
  name : p.name = q.name
  version : p.version = q.version
  entities : SameEntities p.entities q.entities

theorem sameUpToOrder_foldl_place (p : Payload) {l l' : List Placement} (h : l.Perm l')
    (bare : ∀ x ∈ l, x.items = []) (last : List Placement) :
    ((l ++ last).foldl place p).SameUpToOrder ((l' ++ last).foldl place p) := by
  have blank : Keyed (create p.name p.version).entities := List.Pairwise.nil
  have agree := (Agree.of_perm h bare (create p.name p.version)).foldl_place last
  rw [← List.foldl_append, ← List.foldl_append] at agree
  have merged := sameEntities_mergeEntities p.entities
    (blank.foldl_place (l ++ last)) (blank.foldl_place (l' ++ last)) agree
  rw [foldl_place_eq_merge p (l ++ last) p.name p.version,
    foldl_place_eq_merge p (l' ++ last) p.name p.version]
  exact ⟨rfl, rfl, merged⟩

end Payload
end KubeEntities
