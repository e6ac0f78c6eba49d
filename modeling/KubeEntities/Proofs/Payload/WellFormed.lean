import KubeEntities.Proofs.Payload.Calls
import KubeEntities.Proofs.Payload.Reorder

/-! What every payload has that came about by calls: named entities, told apart by name and type,
and finite numbers only. `after_calls` puts this together with what a single call can change in such
a payload and with what stays of it under any calls that follow. -/

namespace KubeEntities

namespace MetricSet

def FiniteNumbers (m : MetricSet) : Prop := ∀ key x, m.find? key = some (.number x) → x.isFinite

theorem isFinite_of_stored? {type : SourceType} {value : Fetched} {x : Number}
    (h : stored? type value = some (.number x)) : x.isFinite := by
  rw [stored?] at h
  split at h
  · cases read : value.number? with
    | none => simp [read] at h
    | some y =>
      simp only [read] at h
      split at h
      · rename_i finite
        cases h
        exact finite
      · cases h
  · simp at h

theorem finiteNumbers_create (eventType : String) (attributes : List (String × String)) :
    (create eventType attributes).FiniteNumbers := by
  have texts (l : List (String × String)) (m : MetricSet) (h : m.FiniteNumbers) :
      (l.foldl (fun m a => m.insert a.1 (.text a.2)) m).FiniteNumbers := by
    induction l generalizing m with
    | nil => exact h
    | cons a l ih =>
      refine ih _ fun key x found => ?_
      rw [SortedMap.find?_insert] at found
      split at found
      · cases found
      · exact h key x found
  refine texts attributes _ fun key x found => ?_
  rw [SortedMap.find?_singleton] at found
  split at found <;> cases found

theorem FiniteNumbers.write {m : MetricSet} (h : m.FiniteNumbers) (name : String) (value : Fetched)
    (type : SourceType) : (m.write name value type).FiniteNumbers := by
  rw [MetricSet.write]
  cases outcome : m.set name value type with
  | error e => exact h
  | ok n =>
    obtain ⟨-, stored, taken, rfl⟩ := set_eq_ok.1 outcome
    intro key x found
    change (m.insert name stored).find? key = _ at found
    rw [SortedMap.find?_insert] at found
    split at found
    · cases found
      exact isFinite_of_stored? taken
    · exact h key x found

end MetricSet

namespace Payload

theorem Call.finiteNumbers_effect {e : Entity} (h : ∀ m ∈ e.metricSets, m.FiniteNumbers) (i : Nat)
    (c : Call) : ∀ m ∈ (c.effect i e).metricSets, m.FiniteNumbers := by
  cases c with
  | entity name type => exact h
  | metricSet position eventType attributes =>
    simp only [effect]
    split
    · intro m hm
      rcases List.mem_append.1 hm with hm | hm
      · exact h m hm
      · exact List.mem_singleton.1 hm ▸ MetricSet.finiteNumbers_create eventType attributes
    · exact h
  | metric position set name value type =>
    simp only [effect]
    split
    · intro m hm
      obtain ⟨j, there⟩ := List.mem_iff_getElem?.1 hm
      obtain ⟨n, held, rfl⟩ := Option.map_eq_some_iff.1 ((List.getElem?_modify ..).symm.trans there)
      have finite := h n (List.mem_of_getElem? held)
      split
      · exact finite.write name value type
      · exact finite
    · exact h
  | item position category field value =>
    simp only [effect]
    split <;> exact h

theorem keyed_iff_nodup {es : List Entity} :
    Keyed es ↔ (es.map fun e => (e.name, e.type)).Nodup := by
  simp [Keyed, List.Nodup, List.pairwise_map]

structure WellFormed (p : Payload) : Prop where
  named : ∀ e ∈ p.entities, e.name ≠ ""
  keyed : Keyed p.entities
  finite : ∀ e ∈ p.entities, ∀ m ∈ e.metricSets, m.FiniteNumbers

namespace WellFormed

theorem create (integration version : String) : (create integration version).WellFormed :=
  ⟨fun _ he => absurd he List.not_mem_nil, .nil, fun _ he => absurd he List.not_mem_nil⟩

theorem created {p : Payload} (h : p.WellFormed) (c : Call) :
    WellFormed { p with entities := p.entities ++ c.created p } := by
  rcases c.created_eq p with none | ⟨name, type, one, named, fresh⟩
  · rw [none, List.append_nil]
    exact h
  · have blank : ∀ e ∈ [Entity.create name type], e = .create name type :=
      fun _ => List.mem_singleton.1
    rw [one]
    refine ⟨fun e he => ?_, ?_, fun e he => ?_⟩
    · rcases List.mem_append.1 he with he | he
      · exact h.named e he
      · exact blank e he ▸ named
    · refine List.pairwise_append.2 ⟨h.keyed, List.pairwise_singleton _ _, fun e he b hb => ?_⟩
      exact blank b hb ▸ fresh e he
    · rcases List.mem_append.1 he with he | he
      · exact h.finite e he
      · rw [blank e he]
        exact fun m hm => absurd hm List.not_mem_nil

theorem leave {p : Payload} (h : p.WellFormed) (c : Call) : (p.leave c).WellFormed := by
  have before := h.created c
  refine ⟨fun b hb => ?_, ?_, fun b hb => ?_⟩
  · obtain ⟨i, e, he, rfl⟩ := exists_of_mem_leave hb
    rw [Call.effect_name]
    exact before.named e he
  · have keys : ((p.leave c).entities.map fun e => (e.name, e.type)) =
        (p.entities ++ c.created p).map fun e => (e.name, e.type) := by
      refine List.ext_getElem? fun i => ?_
      rw [List.getElem?_map, List.getElem?_map, entity?_leave, Option.map_map]
      simp [Function.comp_def]
    rw [keyed_iff_nodup, keys, ← keyed_iff_nodup]
    exact before.keyed
  · obtain ⟨i, e, he, rfl⟩ := exists_of_mem_leave hb
    exact Call.finiteNumbers_effect (before.finite e he) i c

theorem after {p : Payload} (h : p.WellFormed) (calls : List Call) :
    (p.after calls).WellFormed := by
  induction calls generalizing p with
  | nil => exact h
  | cons c calls ih => exact ih (h.leave c)

end WellFormed

def storedAt? (p : Payload) (position set : Nat) (name : String) : Option Stored :=
  (p.set? position set).bind (·.find? name)

/-- An entity but for what is in its metric sets. -/
def outline (e : Entity) : String × String × Inventory × Nat :=
  (e.name, e.type, e.inventory, e.metricSets.length)

/-- The same payload but for what stands under one name in one metric set. -/
structure SameBut (position set : Nat) (metric : String) (p q : Payload) : Prop where
  name : q.name = p.name
  version : q.version = p.version
  entities : q.entities.map outline = p.entities.map outline
  entries : ∀ i j key, (i, j, key) ≠ (position, set, metric) →
    q.storedAt? i j key = p.storedAt? i j key

theorem set?_withSet {p : Payload} {position set : Nat} {m : MetricSet}
    (held : p.set? position set = some m) (n : MetricSet) (i j : Nat) :
    (p.withSet position set n).set? i j =
      if i = position ∧ j = set then some n else p.set? i j := by
  obtain ⟨e, there, inside⟩ := set?_eq_some.1 held
  have bound : set < e.metricSets.length := (List.getElem?_eq_some_iff.1 inside).1
  rw [set?, withSet, entity?_modifyAt]
  by_cases entity : position = i
  · subst entity
    by_cases here : set = j
    · subst here
      simp [there, bound]
    · simp [set?, there, here, Ne.symm here]
  · simp [set?, entity, Ne.symm entity]

theorem outline_withSet (p : Payload) (position set : Nat) (n : MetricSet) :
    (p.withSet position set n).entities.map outline = p.entities.map outline := by
  refine List.ext_getElem? fun i => ?_
  rw [List.getElem?_map, List.getElem?_map, withSet, entity?_modifyAt, Option.map_map]
  congr 1
  funext e
  simp only [Function.comp]
  split <;> simp [outline]

theorem setMetric_eq_ok {p q : Payload} {position set : Nat} {name : String} {value : Fetched}
    {type : SourceType} (h : p.setMetric position set name value type = some (.ok q)) :
    name ≠ "" ∧ (∃ stored, MetricSet.stored? type value = some stored ∧
      q.storedAt? position set name = some stored) ∧ SameBut position set name p q := by
  rw [setMetric_eq] at h
  obtain ⟨m, held, outcome⟩ := Option.map_eq_some_iff.1 h
  cases result : m.set name value type with
  | error e => rw [result] at outcome; cases outcome
  | ok n =>
    rw [result] at outcome
    cases outcome
    obtain ⟨named, stored, taken, rfl⟩ := MetricSet.set_eq_ok.1 result
    refine ⟨named, ⟨stored, taken, ?_⟩, rfl, rfl, p.outline_withSet .., fun i j key other => ?_⟩
    · simp [storedAt?, set?_withSet held, SortedMap.find?_insert]
    · simp only [storedAt?, set?_withSet held]
      split
      · rename_i here
        obtain ⟨rfl, rfl⟩ := here
        have elsewhere : key ≠ name := fun same => other (same ▸ rfl)
        simp [SortedMap.find?_insert, elsewhere, held]
      · rfl

theorem entity_eq_ok (p : Payload) {name : String} (named : name ≠ "") (type : String) :
    ∃ q, p.entity name type = .ok q ∧ (q.find? name type).isSome ∧
      (q = p ∨ q = { p with entities := p.entities ++ [.create name type] }) := by
  have keeps : Entity.KeepsKey id := fun _ => ⟨rfl, rfl⟩
  refine ⟨p.ensure name type, ?_, ?_, ?_⟩
  · simp [entity_eq, named]
  · simp [find?, ensure, find?_updateEntities keeps]
  · rw [ensure, updateEntities_id]
    split
    · exact .inl rfl
    · exact .inr rfl

/-- A payload that was made by calls alone. -/
theorem after_calls (integration version : String) (calls : List Call) :
    let p := (create integration version).after calls
    p.WellFormed ∧
      (∀ name type, name ≠ "" → ∃ q, p.entity name type = .ok q ∧ (q.find? name type).isSome ∧
        (q = p ∨ q = { p with entities := p.entities ++ [.create name type] })) ∧
      (∀ position set name value type q, p.setMetric position set name value type = some (.ok q) →
        name ≠ "" ∧ (∃ stored, MetricSet.stored? type value = some stored ∧
          q.storedAt? position set name = some stored) ∧ SameBut position set name p q) ∧
      (∀ c : Call, c.run p = (c.apply p).map fun
        | .ok q => (.ok (), q)
        | .error e => (.error e, p)) ∧
      ∀ more i e, p.entities[i]? = some e →
        ∃ later, (p.after more).entities[i]? = some later ∧ later.name = e.name ∧
          later.type = e.type ∧
          ∀ j m, e.metricSets[j]? = some m →
            later.metricSets[j]? = some (more.foldl (fun m c => c.writeTo i j m) m) := by
  intro p
  refine ⟨(WellFormed.create integration version).after calls,
    fun name type named => p.entity_eq_ok named type,
    fun position set name value type q h => setMetric_eq_ok h, Call.run_eq_apply p, ?_⟩
  intro more i e there
  exact ⟨_, entity?_after more there, Call.foldl_effect i more e⟩

/-- A padded number is taken, one that is not finite is refused, and writes into another set leave
the first as it was. -/
theorem after_calls_padded :
    let p := (create "ksm" "1").after [.entity "web" "node", .metricSet 0 "Sample" [],
      .metric 0 0 "cores" (.text " 4 ") .gauge, .metric 0 0 "cores" (.text "inf") .gauge]
    let first : MetricSet := .ofList [("event_type", .text "Sample"), ("cores", .number (.ofInt 4))]
    p.WellFormed ∧ (∃ q, p.entity "web" "node" = .ok q ∧ (q.find? "web" "node").isSome) ∧
      (∃ q, p.setMetric 0 0 "cores" (.flag true) .gauge = some (.ok q) ∧
        q.storedAt? 0 0 "cores" = some (.number (.ofInt 1)) ∧ SameBut 0 0 "cores" p q) ∧
      ∃ later, (p.after [.metricSet 0 "Sample" [], .metric 0 1 "cores" (.flag true) .gauge,
          .metric 0 0 "" (.flag true) .gauge]).entities[0]? = some later ∧
        later.metricSets[0]? = some first := by
  intro p first
  obtain ⟨sound, entity, metric, _, kept⟩ := after_calls "ksm" "1" [.entity "web" "node",
    .metricSet 0 "Sample" [], .metric 0 0 "cores" (.text " 4 ") .gauge,
    .metric 0 0 "cores" (.text "inf") .gauge]
  obtain ⟨q, taken, found, _⟩ := entity "web" "node" (by decide)
  have held : p.set? 0 0 = some first := by decide +kernel
  have read : MetricSet.stored? .gauge (.flag true) = some (.number (.ofInt 1)) := by
    decide +kernel
  have outcome : p.setMetric 0 0 "cores" (.flag true) .gauge =
      some (.ok (p.withSet 0 0 (first.insert "cores" (.number (.ofInt 1))))) := by
    rw [setMetric_eq, held, Option.map_some,
      MetricSet.set_eq_ok.2 ⟨by decide, _, read, rfl⟩]
    rfl
  refine ⟨sound, ⟨q, taken, found⟩, ?_, ?_⟩
  · obtain ⟨_, ⟨stored, same, there⟩, others⟩ := metric 0 0 "cores" (.flag true) .gauge _ outcome
    exact ⟨_, outcome, there.trans (same.symm.trans read), others⟩
  · obtain ⟨e, there, inside⟩ := set?_eq_some.1 held
    obtain ⟨later, still, _, _, sets⟩ := kept [.metricSet 0 "Sample" [],
      .metric 0 1 "cores" (.flag true) .gauge, .metric 0 0 "" (.flag true) .gauge] 0 e there
    exact ⟨later, still, sets 0 first inside⟩

end Payload
end KubeEntities
