import KubeEntities.Payload.Text
import KubeEntities.Proofs.Json.RoundTrip
import KubeEntities.Proofs.Payload.WellFormed
import KubeEntities.Proofs.SortedMap

/-! The text of a payload is faithful. Whatever calls a payload came about by, both forms of its
text are read as one tree, which holds everything that the payload holds, so the text determines
the payload (`text_faithful`). What can be read back in a tree is what a tree of JSON can hold:
integers of 64 bits, finite numbers and texts (`IsValue`). -/

namespace KubeEntities

/-- What JSON can hold apart from arrays and objects. -/
def Scalar.IsValue : Scalar → Prop
  | .null | .bool _ | .str _ => True
  | .int n => Json.FitsWord n
  | .float x => x.isFinite = true
  | .noText => False

namespace Json

def IsValue (j : Json) : Prop := ∀ s ∈ j.scalars, s.IsValue

mutual

theorem mem_scalars_of_normal : ∀ (j : Json) {s : Scalar}, s ∈ j.normal.scalars → s ∈ j.scalars
  | .scalar _, _, h => h
  | .arr items, _, h => mem_scalars_of_normalItems items h
  | .obj members, _, h => by
    obtain ⟨key, value, found, held⟩ := mem_scalars_ofMap.1 h
    rcases mem_scalars_of_normalMembers members ∅ found held with ⟨value', none, _⟩ | held
    · cases none
    · exact held

theorem mem_scalars_of_normalItems :
    ∀ (items : List Json) {s : Scalar}, s ∈ scalarsItems (normalItems items) →
      s ∈ scalarsItems items
  | [], _, h => h
  | item :: rest, _, h => by
    rcases List.mem_append.1 h with first | later
    · exact List.mem_append_left _ (mem_scalars_of_normal item first)
    · exact List.mem_append_right _ (mem_scalars_of_normalItems rest later)

theorem mem_scalars_of_normalMembers :
    ∀ (members : List (String × Json)) (before : SortedMap Json) {key : String} {value : Json}
      {s : Scalar}, (normalMembers before members).find? key = some value → s ∈ value.scalars →
        (∃ value', before.find? key = some value' ∧ s ∈ value'.scalars) ∨ s ∈ scalarsMembers members
  | [], _, _, value, _, found, held => .inl ⟨value, found, held⟩
  | (key', value') :: rest, before, key, value, s, found, held => by
    rcases mem_scalars_of_normalMembers rest _ found held with ⟨value'', there, held⟩ | later
    · rw [SortedMap.find?_insert] at there
      split at there
      · cases there
        exact .inr (List.mem_append_left _ (mem_scalars_of_normal value' held))
      · exact .inl ⟨value'', there, held⟩
    · exact .inr (List.mem_append_right _ later)

end

theorem ofMap_injective {m n : SortedMap Json} (h : ofMap m = ofMap n) : m = n :=
  SortedMap.ext_entries (Json.obj.inj h)

end Json

namespace Inventory

def HasValues (inventory : Inventory) : Prop :=
  ∀ category field value, inventory.item? category field = some value → value.IsValue

theorem item?_set (inventory : Inventory) (category field c f : String) (value : Json) :
    (inventory.set category field value).item? c f =
      if c = category ∧ f = field then some value.normal else inventory.item? c f := by
  simp only [item?, set, SortedMap.find?_upsert]
  by_cases here : c = category
  · subst here
    cases found : inventory.find? c with
    | none => by_cases same : f = field <;> simp [SortedMap.find?_insert, same]
    | some fields => by_cases same : f = field <;> simp [SortedMap.find?_insert, same]
  · simp [here]

theorem HasValues.set {inventory : Inventory} (h : inventory.HasValues) {value : Json}
    (good : value.IsValue) (category field : String) :
    (inventory.set category field value).HasValues := by
  intro c f v found
  rw [item?_set] at found
  split at found
  · cases found
    exact fun s hs => good s (Json.mem_scalars_of_normal value hs)
  · exact h c f v found

end Inventory

namespace Payload

def Call.HasValue : Call → Prop
  | .item _ _ _ value => value.IsValue
  | _ => True

def IsMade (p : Payload) : Prop :=
  ∃ integration version, ∃ calls : List Call,
    (∀ c ∈ calls, c.HasValue) ∧ p = (create integration version).after calls

theorem IsMade.wellFormed {p : Payload} (h : p.IsMade) : p.WellFormed := by
  obtain ⟨integration, version, calls, -, rfl⟩ := h
  exact (WellFormed.create integration version).after calls

theorem Call.hasValues_effect {e : Entity} (h : e.inventory.HasValues) (i : Nat) {c : Call}
    (good : c.HasValue) : (c.effect i e).inventory.HasValues := by
  cases c with
  | entity name type => exact h
  | metricSet position eventType attributes =>
    simp only [effect]
    split <;> exact h
  | metric position set name value type =>
    simp only [effect]
    split <;> exact h
  | item position category field value =>
    simp only [effect]
    split
    · exact h.set good category field
    · exact h

theorem hasValues_leave {p : Payload} (h : ∀ e ∈ p.entities, e.inventory.HasValues) {c : Call}
    (good : c.HasValue) : ∀ e ∈ (p.leave c).entities, e.inventory.HasValues := by
  intro b hb
  obtain ⟨i, e, he, rfl⟩ := exists_of_mem_leave hb
  refine Call.hasValues_effect ?_ i good
  rcases List.mem_append.1 he with he | he
  · exact h e he
  · rcases c.created_eq p with none | ⟨name, type, one, _⟩
    · simp [none] at he
    · rw [one] at he
      rw [List.mem_singleton.1 he]
      intro category field value found
      cases found

theorem IsMade.hasValues {p : Payload} (h : p.IsMade) :
    ∀ e ∈ p.entities, e.inventory.HasValues := by
  obtain ⟨integration, version, calls, good, rfl⟩ := h
  have run (calls : List Call) (good : ∀ c ∈ calls, c.HasValue) (p : Payload)
      (h : ∀ e ∈ p.entities, e.inventory.HasValues) :
      ∀ e ∈ (p.after calls).entities, e.inventory.HasValues := by
    induction calls generalizing p with
    | nil => exact h
    | cons c calls ih =>
      exact ih (fun d hd => good d (List.mem_cons_of_mem _ hd)) _
        (hasValues_leave h (good c List.mem_cons_self))
  exact run calls good _ fun e he => absurd he List.not_mem_nil

end Payload

theorem MetricSet.isValue_toJson {m : MetricSet} (h : m.FiniteNumbers) : m.toJson.IsValue := by
  intro s hs
  obtain ⟨key, value, found, held⟩ := Json.mem_scalars_ofMap.1 hs
  rw [SortedMap.find?_map] at found
  obtain ⟨stored, there, rfl⟩ := Option.map_eq_some_iff.1 found
  cases stored with
  | text t =>
    rw [List.mem_singleton.1 held]
    trivial
  | number x =>
    rw [List.mem_singleton.1 held]
    exact h key x there

theorem Inventory.isValue_toJson {inventory : Inventory} (h : inventory.HasValues) :
    inventory.toJson.IsValue := by
  intro s hs
  obtain ⟨category, value, found, held⟩ := Json.mem_scalars_ofMap.1 hs
  rw [SortedMap.find?_map] at found
  obtain ⟨fields, there, rfl⟩ := Option.map_eq_some_iff.1 found
  obtain ⟨field, item, inside, held⟩ := Json.mem_scalars_ofMap.1 held
  exact h category field item (by simp [item?, there, inside]) s held

theorem Entity.isValue_toJson {e : Entity} (sets : ∀ m ∈ e.metricSets, m.FiniteNumbers)
    (items : e.inventory.HasValues) : e.toJson.IsValue := by
  intro s hs
  simp only [toJson, Json.scalars, Json.scalarsMembers, Json.scalarsItems, List.append_nil,
    List.mem_append, List.mem_singleton, Json.mem_scalarsItems, List.mem_map] at hs
  rcases hs with (rfl | rfl) | ⟨_, ⟨m, hm, rfl⟩, held⟩ | held
  · trivial
  · trivial
  · exact MetricSet.isValue_toJson (sets m hm) s held
  · exact Inventory.isValue_toJson items s held

theorem Payload.IsMade.isValue_toJson {p : Payload} (h : p.IsMade) : p.toJson.IsValue := by
  intro s hs
  simp only [toJson, Json.scalars, Json.scalarsMembers, List.append_nil, List.mem_append,
    List.mem_singleton, Json.mem_scalarsItems, List.mem_map] at hs
  rcases hs with rfl | rfl | rfl | ⟨_, ⟨e, he, rfl⟩, held⟩
  · trivial
  · trivial
  · trivial
  · exact e.isValue_toJson (h.wellFormed.finite e he) (h.hasValues e he) s held

theorem Stored.toJson_injective {a b : Stored} (h : a.toJson = b.toJson) : a = b := by
  cases a <;> cases b <;> cases h <;> rfl

theorem MetricSet.toJson_injective {m n : MetricSet} (h : m.toJson = n.toJson) : m = n :=
  SortedMap.map_injective (fun _ _ _ => Stored.toJson_injective) (Json.ofMap_injective h)

theorem Inventory.toJson_injective {i j : Inventory} (h : i.toJson = j.toJson) : i = j :=
  SortedMap.map_injective (fun _ _ _ => Json.ofMap_injective) (Json.ofMap_injective h)

theorem Entity.toJson_injective {a b : Entity} (h : a.toJson = b.toJson) : a = b := by
  obtain ⟨name, type, sets, inventory⟩ := a
  obtain ⟨name', type', sets', inventory'⟩ := b
  simp only [toJson, Json.obj.injEq, List.cons.injEq, Prod.mk.injEq, Json.scalar.injEq,
    Scalar.str.injEq, Json.arr.injEq, true_and, and_true] at h
  obtain ⟨⟨rfl, rfl⟩, metrics, items⟩ := h
  rw [List.map_injective_iff.2 (fun _ _ => MetricSet.toJson_injective) metrics,
    Inventory.toJson_injective items]

namespace Payload

theorem toJson_injective {p q : Payload} (h : p.toJson = q.toJson) : p = q := by
  obtain ⟨name, version, entities⟩ := p
  obtain ⟨name', version', entities'⟩ := q
  simp only [toJson, Json.obj.injEq, List.cons.injEq, Prod.mk.injEq, Json.scalar.injEq,
    Scalar.str.injEq, Json.arr.injEq, true_and, and_true] at h
  obtain ⟨rfl, rfl, data⟩ := h
  rw [List.map_injective_iff.2 (fun _ _ => Entity.toJson_injective) data]

/-- The text of each number in the payload is read as that number. A reader that rounds twice does
not give this for every number. -/
def NumbersReadBack (p : Payload) : Prop :=
  ∀ x, x.isFinite = true → .float x ∈ p.toJson.scalars → x.ReadsBack

theorem IsMade.readsBack_toJson {p : Payload} (h : p.IsMade) (reads : p.NumbersReadBack) :
    p.toJson.ReadsBack := by
  intro s hs
  have value := h.isValue_toJson s hs
  cases s with
  | float x => exact reads x value hs
  | null | bool | int | str | noText => exact value

theorem read?_text {p : Payload} (made : p.IsMade) (reads : p.NumbersReadBack) (indented : Bool) :
    Json.read? (p.text indented) = some p.toJson :=
  Json.read?_render indented (made.readsBack_toJson reads)

/-- Both forms are read, and as one tree. So a payload with the same text, in whichever form, is the
same payload. -/
theorem text_faithful {p : Payload} (made : p.IsMade) (reads : p.NumbersReadBack) :
    (∀ indented, Json.read? (p.text indented) = some (.obj [
      ("name", .str p.name),
      ("protocol_version", .str "3"),
      ("integration_version", .str p.version),
      ("data", .arr (p.entities.map fun e => .obj [
        ("entity", .obj [("name", .str e.name), ("type", .str e.type), ("id_attributes", .arr [])]),
        ("metrics", .arr (e.metricSets.map fun m =>
          .obj (m.entries.map fun held => (held.1, held.2.toJson)))),
        ("inventory", .obj (e.inventory.entries.map fun items => (items.1, .obj items.2.entries))),
        ("events", .arr [])]))])) ∧
      ∀ q : Payload, q.IsMade → q.NumbersReadBack →
        ∀ form form', p.text form = q.text form' → p = q := by
  refine ⟨read?_text made reads, fun q made' reads' form form' same => ?_⟩
  have read := read?_text made reads form
  rw [same, read?_text made' reads' form'] at read
  exact toJson_injective (Option.some.inj read).symm

theorem text_faithful_quoted :
    let half : Number := .finite false ⟨Nat.pow 2 52, 1021, by decide⟩
    let p := (create "\"k\\\n" "1").after [.entity "wé\u0001" "node",
      .metricSet 0 "Sample" [("a\"", "")], .metric 0 0 "load" (.value (.gauge half)) .gauge,
      .item 0 "cluster" "offset" (.int (-3))]
    (∀ indented, Json.read? (p.text indented) = some (.obj [
      ("name", .str "\"k\\\n"), ("protocol_version", .str "3"), ("integration_version", .str "1"),
      ("data", .arr [.obj [
        ("entity",
          .obj [("name", .str "wé\u0001"), ("type", .str "node"), ("id_attributes", .arr [])]),
        ("metrics", .arr [.obj [("a\"", .str ""), ("event_type", .str "Sample"),
          ("load", .float half)]]),
        ("inventory", .obj [("cluster", .obj [("offset", .int (-3))])]),
        ("events", .arr [])]])])) ∧
      p.text false ≠ (create "k" "1").text true := by
  intro half p
  have made : p.IsMade := by
    refine ⟨_, _, _, ?_, rfl⟩
    simp [Call.HasValue, Json.IsValue, Json.scalars, Scalar.IsValue, Json.FitsWord]
  have reads : p.NumbersReadBack := by
    have held : p.toJson.scalars = [.str "\"k\\\n", .str "3", .str "1", .str "wé\u0001",
        .str "node", .str "", .str "Sample", .float half, .int (-3)] := by
      decide +kernel
    intro x _ hx
    have same : x = half := by simpa [held] using hx
    have back : half.ReadsBack := by decide +kernel
    exact same ▸ back
  obtain ⟨read, same⟩ := text_faithful made reads
  refine ⟨read, fun equal => ?_⟩
  have bare : (create "k" "1").IsMade := ⟨_, _, [], List.forall_mem_nil _, rfl⟩
  have none : (create "k" "1").NumbersReadBack := by
    simp [NumbersReadBack, toJson, create, Json.scalars, Json.scalarsMembers, Json.scalarsItems]
  have empty := same _ bare none false true equal
  have length := congrArg (fun p : Payload => p.entities.length) empty
  exact absurd length (by decide +kernel)

end Payload
end KubeEntities
