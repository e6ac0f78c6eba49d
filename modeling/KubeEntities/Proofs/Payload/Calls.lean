import KubeEntities.Proofs.Payload.Slot
import Mathlib.Data.List.Basic

/-! Sequences of calls on a payload. `Call.run` is a call made in place: an error leaves behind what
was done before it was found, and `run_eq_apply` shows that nothing was. `entity?_leave` says all
that a call can do, and from there an entity is followed through the calls (`entity?_after`) and a
metric set through those of its entity (`foldl_effect`). -/

namespace KubeEntities

namespace Payload

/-- Entities are addressed by where they stand, and so are the metric sets of an entity. -/
inductive Call
  | entity (name type : String)
  | metricSet (position : Nat) (eventType : String) (attributes : List (String × String))
  | metric (position set : Nat) (name : String) (value : Fetched) (type : SourceType)
  | item (position : Nat) (category field : String) (value : Json)

/-- Work on a payload in place. An error does not undo what came before it. There is no outcome if
the work would be on something that is not there. -/
abbrev InPlace := ExceptT SinkError (StateT Payload Option)

namespace InPlace

def there {α : Type} (x : Option α) : InPlace α := ExceptT.lift (StateT.lift x)

/-- The answer together with the payload that is left, also when the answer is an error. -/
def on {α : Type} (work : InPlace α) (p : Payload) : Option (Except SinkError α × Payload) :=
  (ExceptT.run work).run p

section
variable {α β : Type} (p : Payload)

@[simp] theorem on_there (x : Option α) (next : α → InPlace β) :
    (there x >>= next).on p = x.bind fun a => (next a).on p := by
  cases x <;> rfl

@[simp] theorem on_get (next : Payload → InPlace β) : (get >>= next).on p = (next p).on p := rfl

@[simp] theorem on_modify (f : Payload → Payload) :
    InPlace.on (modify f) p = some (.ok (), f p) := rfl

@[simp] theorem on_set (q : Payload) : InPlace.on (set q) p = some (.ok (), q) := rfl

@[simp] theorem on_throw (e : SinkError) :
    (throw e : InPlace α).on p = some (.error e, p) := rfl

@[simp] theorem on_pure (a : α) : (pure a : InPlace α).on p = some (.ok a, p) := rfl

end

def entity (name type : String) : InPlace Unit := do
  if name.isEmpty then throw .emptyEntityName
  let p ← get
  unless p.entities.any (·.is name type) do
    set { p with entities := p.entities ++ [Entity.create name type] }

def metricSet (position : Nat) (eventType : String) (attributes : List (String × String)) :
    InPlace Unit := do
  let _ ← there (← get).entities[position]?
  modify (·.addMetricSet position eventType attributes)

def metric (position set : Nat) (name : String) (value : Fetched) (type : SourceType) :
    InPlace Unit := do
  let e ← there (← get).entities[position]?
  let m ← there e.metricSets[set]?
  if name.isEmpty then throw .emptyMetricName
  match MetricSet.stored? type value with
  | none => throw (.typeMismatch name type value.display)
  | some stored => modify (·.withSet position set (m.insert name stored))

def item (position : Nat) (category field : String) (value : Json) : InPlace Unit := do
  let _ ← there (← get).entities[position]?
  modify (·.setInventory position category field value)

end InPlace

namespace Call

def run (p : Payload) : Call → Option (Except SinkError Unit × Payload)
  | .entity name type => (InPlace.entity name type).on p
  | .metricSet position eventType attributes =>
    (InPlace.metricSet position eventType attributes).on p
  | .metric position set name value type => (InPlace.metric position set name value type).on p
  | .item position category field value => (InPlace.item position category field value).on p

/-- The same calls where an error comes without a payload. -/
def apply (p : Payload) : Call → Option (Except SinkError Payload)
  | .entity name type => some (p.entity name type)
  | .metricSet position eventType attributes =>
    (p.entities[position]?).map fun _ => .ok (p.addMetricSet position eventType attributes)
  | .metric position set name value type => p.setMetric position set name value type
  | .item position category field value =>
    (p.entities[position]?).map fun _ => .ok (p.setInventory position category field value)

end Call

theorem updateEntities_id (name type : String) (es : List Entity) :
    updateEntities name type id es =
      if es.any (·.is name type) then es else es ++ [.create name type] := by
  induction es with
  | nil => rfl
  | cons e rest ih =>
    rw [updateEntities, ih]
    by_cases here : e.is name type = true
    · simp [here]
    · by_cases later : rest.any (·.is name type) = true <;> simp [here, later]

/-- Whatever is found wrong with a call is found before anything is changed. -/
theorem Call.run_eq_apply (p : Payload) (c : Call) :
    c.run p = (c.apply p).map fun
      | .ok q => (.ok (), q)
      | .error e => (.error e, p) := by
  cases c with
  | entity name type =>
    by_cases empty : name.isEmpty = true
    · simp [run, apply, InPlace.entity, entity_eq, empty]
    · by_cases known : p.entities.any (·.is name type) = true <;>
        simp [run, apply, InPlace.entity, entity_eq, empty, ensure, updateEntities_id, known,
          -List.any_eq_true]
  | metricSet position eventType attributes =>
    cases there : p.entities[position]? <;> simp [run, apply, InPlace.metricSet, there]
  | metric position set name value type =>
    simp only [run, apply, InPlace.metric, InPlace.on_get, InPlace.on_there, setMetric]
    cases there : p.entities[position]? with
    | none => rfl
    | some e =>
      cases held : e.metricSets[set]? with
      | none => simp [held]
      | some m =>
        by_cases empty : name.isEmpty = true
        · simp [held, MetricSet.set, empty]
        · cases stored : MetricSet.stored? type value <;>
            simp [held, MetricSet.set, empty, stored, withSet]
  | item position category field value =>
    cases there : p.entities[position]? <;> simp [run, apply, InPlace.item, there]

/-- The payload after a call. A call on what is not there cannot be made. -/
def leave (p : Payload) (c : Call) : Payload := ((c.run p).map (·.2)).getD p

def after (p : Payload) (calls : List Call) : Payload := calls.foldl leave p

end Payload

namespace MetricSet

/-- The set after a write, which stays as it was if the write is refused. -/
def write (m : MetricSet) (name : String) (value : Fetched) (type : SourceType) : MetricSet :=
  (m.set name value type).toOption.getD m

theorem set_eq_ok {m n : MetricSet} {name : String} {value : Fetched} {type : SourceType} :
    m.set name value type = .ok n ↔
      name ≠ "" ∧ ∃ stored, stored? type value = some stored ∧ m.insert name stored = n := by
  simp only [set, String.isEmpty_iff]
  by_cases empty : name = ""
  · simp [empty]
  · cases stored? type value <;> simp [empty]

end MetricSet

namespace Payload

namespace Call

def writeTo (position set : Nat) (m : MetricSet) : Call → MetricSet
  | .metric i j name value type => if i = position ∧ j = set then m.write name value type else m
  | _ => m

def effect (position : Nat) (c : Call) (e : Entity) : Entity :=
  match c with
  | .entity .. => e
  | .metricSet i eventType attributes =>
    if i = position then e.addMetricSet (.create eventType attributes) else e
  | .metric i set name value type =>
    if i = position then
      { e with metricSets := e.metricSets.modify set (·.write name value type) }
    else e
  | .item i category field value => if i = position then e.setInventory category field value else e

def created (p : Payload) : Call → List Entity
  | .entity name type =>
    if name.isEmpty || p.entities.any (·.is name type) then [] else [Entity.create name type]
  | _ => []

@[simp] theorem effect_name (position : Nat) (e : Entity) (c : Call) :
    (c.effect position e).name = e.name := by
  cases c <;> simp only [effect] <;> split <;> rfl

@[simp] theorem effect_type (position : Nat) (e : Entity) (c : Call) :
    (c.effect position e).type = e.type := by
  cases c <;> simp only [effect] <;> split <;> rfl

end Call

theorem modifyAt_eq_self {p : Payload} {position : Nat} {f : Entity → Entity}
    (same : ∀ e, p.entities[position]? = some e → f e = e) : p.modifyAt position f = p := by
  rw [modifyAt_congr (g := id) same, modifyAt, List.modify_id]

theorem leave_eq (p : Payload) (c : Call) :
    p.leave c = ((c.apply p).map fun outcome => outcome.toOption.getD p).getD p := by
  rw [leave, Call.run_eq_apply]
  rcases c.apply p with _ | _ | _ <;> rfl

def set? (p : Payload) (position set : Nat) : Option MetricSet :=
  (p.entities[position]?).bind (·.metricSets[set]?)

theorem set?_eq_some {p : Payload} {position set : Nat} {m : MetricSet} :
    p.set? position set = some m ↔
      ∃ e, p.entities[position]? = some e ∧ e.metricSets[set]? = some m :=
  Option.bind_eq_some_iff

theorem setMetric_eq (p : Payload) (position set : Nat) (name : String) (value : Fetched)
    (type : SourceType) :
    p.setMetric position set name value type =
      (p.set? position set).map fun m => (m.set name value type).map (p.withSet position set) := by
  rw [setMetric, set?, Option.map_bind]
  congr 1
  funext e
  simp only [Function.comp]
  congr 1
  funext m
  cases m.set name value type <;> rfl

theorem withSet_self {p : Payload} {position set : Nat} {m : MetricSet}
    (held : p.set? position set = some m) : p.withSet position set m = p := by
  obtain ⟨e, there, at_set⟩ := set?_eq_some.1 held
  refine modifyAt_eq_self fun a here => ?_
  cases there.symm.trans here
  have same : e.metricSets.set set m = e.metricSets := by
    refine List.ext_getElem? fun j => ?_
    rw [List.getElem?_set']
    split
    · rename_i here
      simp [← here, at_set]
    · rfl
  rw [same]

theorem leave_metric (p : Payload) (position set : Nat) (name : String) (value : Fetched)
    (type : SourceType) :
    p.leave (.metric position set name value type) =
      p.modifyAt position fun e =>
        { e with metricSets := e.metricSets.modify set (·.write name value type) } := by
  rw [leave_eq, Call.apply, setMetric_eq]
  cases held : p.set? position set with
  | none =>
    refine (modifyAt_eq_self (p := p) fun e there => ?_).symm
    have absent : e.metricSets[set]? = none := by rwa [set?, there] at held
    rw [List.modify_eq_set_getElem?, absent]
    rfl
  | some m =>
    have written : p.withSet position set (m.write name value type) =
        p.modifyAt position fun e =>
          { e with metricSets := e.metricSets.modify set (·.write name value type) } := by
      obtain ⟨e, there, at_set⟩ := set?_eq_some.1 held
      refine modifyAt_congr fun a here => ?_
      cases there.symm.trans here
      rw [List.modify_eq_set_getElem?, at_set]
      rfl
    rw [← written, MetricSet.write, Option.map_some, Option.map_some, Option.getD_some]
    cases m.set name value type with
    | error e => exact (withSet_self held).symm
    | ok n => rfl

theorem leave_at (p : Payload) (position : Nat) {f : Entity → Entity} {c : Call}
    (h : c.apply p = (p.entities[position]?).map fun _ => .ok (p.modifyAt position f)) :
    p.leave c = p.modifyAt position f := by
  rw [leave_eq, h]
  cases there : p.entities[position]? with
  | none => exact (modifyAt_eq_self fun e here => by simp [there] at here).symm
  | some e => rfl

theorem entity?_modifyAt (p : Payload) (position i : Nat) (f : Entity → Entity) :
    (p.modifyAt position f).entities[i]? =
      (p.entities[i]?).map fun e => if position = i then f e else e :=
  List.getElem?_modify ..

/-- All that a call can do: the entities take its effect where they stand, and what it creates comes
last. -/
theorem entity?_leave (p : Payload) (c : Call) (i : Nat) :
    (p.leave c).entities[i]? = ((p.entities ++ c.created p)[i]?).map (c.effect i) := by
  cases c with
  | entity name type =>
    have idle : (Call.entity name type).effect i = id := rfl
    rw [leave_eq, Call.apply, entity_eq, idle, Option.map_id]
    by_cases empty : name.isEmpty = true
    · simp [Call.created, empty, Except.toOption]
    · by_cases known : p.entities.any (·.is name type) = true <;>
        simp [Call.created, empty, ensure, updateEntities_id, known, Except.toOption,
          -List.any_eq_true]
  | metricSet position eventType attributes =>
    rw [p.leave_at position rfl, entity?_modifyAt]
    simp only [Call.created, List.append_nil]
    rfl
  | metric position set name value type =>
    rw [leave_metric, entity?_modifyAt]
    simp only [Call.created, List.append_nil]
    rfl
  | item position category field value =>
    rw [p.leave_at position rfl, entity?_modifyAt]
    simp only [Call.created, List.append_nil]
    rfl

theorem exists_of_mem_leave {p : Payload} {c : Call} {b : Entity} (h : b ∈ (p.leave c).entities) :
    ∃ i, ∃ e ∈ p.entities ++ c.created p, b = c.effect i e := by
  obtain ⟨i, there⟩ := List.mem_iff_getElem?.1 h
  obtain ⟨e, held, rfl⟩ := Option.map_eq_some_iff.1 ((p.entity?_leave c i).symm.trans there)
  exact ⟨i, e, List.mem_of_getElem? held, rfl⟩

theorem entity?_after (calls : List Call) {p : Payload} {i : Nat} {e : Entity}
    (there : p.entities[i]? = some e) :
    (p.after calls).entities[i]? = some (calls.foldl (fun e c => c.effect i e) e) := by
  induction calls generalizing p e with
  | nil => exact there
  | cons c calls ih =>
    refine ih ?_
    rw [entity?_leave, List.getElem?_append_left (List.getElem?_eq_some_iff.1 there).1, there]
    rfl

namespace Call

theorem set?_effect (i : Nat) {e : Entity} {j : Nat} {m : MetricSet}
    (held : e.metricSets[j]? = some m) (c : Call) :
    (c.effect i e).metricSets[j]? = some (c.writeTo i j m) := by
  have inside : j < e.metricSets.length := (List.getElem?_eq_some_iff.1 held).1
  cases c with
  | entity name type => exact held
  | metricSet position eventType attributes =>
    simp only [effect, writeTo]
    split
    · exact (List.getElem?_append_left inside).trans held
    · exact held
  | metric position set name value type =>
    simp only [effect, writeTo]
    by_cases entity : position = i
    · by_cases here : set = j <;> simp [entity, here, held]
    · simp [entity, held]
  | item position category field value =>
    simp only [effect, writeTo]
    split <;> exact held

theorem foldl_effect (i : Nat) (calls : List Call) (e : Entity) :
    (calls.foldl (fun e c => c.effect i e) e).name = e.name ∧
      (calls.foldl (fun e c => c.effect i e) e).type = e.type ∧
      ∀ j m, e.metricSets[j]? = some m →
        (calls.foldl (fun e c => c.effect i e) e).metricSets[j]? =
          some (calls.foldl (fun m c => c.writeTo i j m) m) := by
  induction calls generalizing e with
  | nil => exact ⟨rfl, rfl, fun _ _ held => held⟩
  | cons c calls ih =>
    obtain ⟨name, type, sets⟩ := ih (c.effect i e)
    exact ⟨name.trans (c.effect_name i e), type.trans (c.effect_type i e),
      fun j m held => sets j _ (c.set?_effect i held)⟩

theorem created_eq (p : Payload) (c : Call) :
    c.created p = [] ∨ ∃ name type, c.created p = [Entity.create name type] ∧ name ≠ "" ∧
      ∀ e ∈ p.entities, ¬ (e.name = name ∧ e.type = type) := by
  cases c with
  | entity name type =>
    by_cases skip : name.isEmpty || p.entities.any (·.is name type)
    · exact .inl (if_pos skip)
    · refine .inr ⟨name, type, if_neg skip, ?_⟩
      simpa using skip
  | _ => exact .inl rfl

end Call

end Payload
end KubeEntities
