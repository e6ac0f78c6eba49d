import KubeEntities.Proofs.Payload.Stocked
import KubeEntities.Proofs.StateMetrics.Naming

/-! The books of the clusters. A cycle that populates the payload adds one metric set to the entity of
its cluster and writes its inventory anew, one that does not leaves the clusters alone, and no object
is ever typed as a cluster is. So after any number of cycles the payload holds one entity for every
cluster that was populated, with one metric set for each of these cycles and the inventory of the
last one (`advance_booked`, `cycles_booked`). -/

namespace KubeEntities.StateMetrics
open PopulationRun

structure Round where
  ctx : CycleContext
  families : List Family

/-- A payload, and which cycles have populated it, in order. -/
structure Books where
  payload : Payload
  populated : List CycleContext

def Books.start (integration version : String) : Books := ⟨.create integration version, []⟩

def Books.advance (b : Books) (r : Round) : Books :=
  let cycle := dataSource.cycle r.ctx r.families b.payload
  { payload := cycle.payload
    populated := if cycle.report.populated then b.populated ++ [r.ctx] else b.populated }

theorem Books.payload_advance (b : Books) (r : Round) :
    (b.advance r).payload = (dataSource.cycle r.ctx r.families b.payload).payload := by
  simp only [advance]

theorem Books.populated_advance (b : Books) (r : Round) :
    (b.advance r).populated =
      if (dataSource.cycle r.ctx r.families b.payload).report.populated then
        b.populated ++ [r.ctx]
      else b.populated := by
  simp only [advance]

def clusterSample (ctx : CycleContext) : MetricSet :=
  .ofList [("event_type", .text "K8sClusterSample"), ("clusterName", .text ctx.cluster),
    ("clusterK8sVersion", .text ctx.k8sVersion)]

def clusterFields (integration version : String) (ctx : CycleContext) : SortedMap Json :=
  .ofList [("name", .str ctx.cluster), ("k8sVersion", .str ctx.k8sVersion),
    ("newrelic.integrationVersion", .str version), ("newrelic.integrationName", .str integration)]

/-- The entity of a cluster after these populated cycles; there is none before the first. -/
def clusterEntity? (integration version cluster : String) (cycles : List CycleContext) :
    Option Entity :=
  cycles.getLast?.map fun last => {
    name := cluster
    type := "k8s:cluster"
    metricSets := cycles.map clusterSample
    inventory := .singleton "cluster" (clusterFields integration version last) }

/-- A payload keeps the books of the cycles that populated it. -/
structure Booked (integration version : String) (populated : List CycleContext) (p : Payload) :
    Prop where
  origin : p.name = integration ∧ p.version = version
  clusters : ∀ cluster, p.entitiesOf cluster "k8s:cluster" =
    (clusterEntity? integration version cluster (populated.filter (·.cluster == cluster))).toList
  others : ∀ e ∈ p.entities, e.type ≠ "k8s:cluster" → e.inventory = ∅

structure IsEntry (integration version : String) (ctx : CycleContext) (x : Placement) : Prop where
  name : x.name = ctx.cluster
  type : x.type = "k8s:cluster"
  set : x.set = clusterSample ctx
  first : x.stock ∅ = .singleton "cluster" (clusterFields integration version ctx)
  /-- all cycles write the same fields, so the last one counts -/
  again : ∀ before, x.stock (.singleton "cluster" (clusterFields integration version before)) =
    .singleton "cluster" (clusterFields integration version ctx)

theorem isEntry_clusterPlacement (ctx : CycleContext) (families : List Family)
    (integration version : String) :
    IsEntry integration version ctx
      ((populationOf ctx families).clusterPlacement integration version) := by
  have set : ((populationOf ctx families).clusterPlacement integration version).set =
      clusterSample ctx := by
    simp only [clusterPlacement, MetricSet.create, clusterSample, SortedMap.ofList,
      List.foldl_cons, List.foldl_nil]
    rfl
  have first : ((populationOf ctx families).clusterPlacement integration version).stock ∅ =
      .singleton "cluster" (clusterFields integration version ctx) := by
    simp only [Placement.stock, clusterPlacement, List.map_cons, List.map_nil, List.foldl_cons,
      List.foldl_nil, Inventory.set_empty, Inventory.set_singleton]
    rfl
  refine ⟨rfl, rfl, set, first, fun before => ?_⟩
  have fields : (clusterFields integration version before).keys =
      (clusterFields integration version ctx).keys := SortedMap.keys_ofList_congr rfl
  rw [← Inventory.overwrite_empty (.singleton "cluster" _), Placement.stock_overwrite, first,
    Inventory.overwrite_of_fields _ fields]

namespace Booked
variable {integration version : String} {populated : List CycleContext} {p : Payload}

theorem objects (h : Booked integration version populated p) {l : List Placement}
    (objects : ∀ x ∈ l, x.items = [] ∧ x.type ≠ "k8s:cluster") :
    Booked integration version populated (l.foldl Payload.place p) where
  origin := by
    rw [(p.foldl_place_name l).1, (p.foldl_place_name l).2]
    exact h.origin
  clusters cluster := by
    have others : ∀ x ∈ l, x.is cluster "k8s:cluster" = false := by
      intro x hx
      rw [← Bool.not_eq_true, Placement.is_eq_true]
      exact fun same => (objects x hx).2 same.2
    rw [Payload.entitiesOf_foldl_place others, h.clusters]
  others := Payload.StocksOnly.foldl_place h.others fun x hx => .inl (objects x hx).1

variable {ctx : CycleContext} {x : Placement} (entry : IsEntry integration version ctx x)
include entry

theorem updateEntities_entry (cycles : List CycleContext) :
    Payload.updateEntities x.name x.type x.fill
        (clusterEntity? integration version ctx.cluster cycles).toList =
      (clusterEntity? integration version ctx.cluster (cycles ++ [ctx])).toList := by
  have filled (e : Entity) : x.fill e =
      ⟨e.name, e.type, e.metricSets ++ [clusterSample ctx], x.stock e.inventory⟩ :=
    entry.set ▸ x.fill_eq e
  rw [entry.name, entry.type]
  rcases List.eq_nil_or_concat cycles with rfl | ⟨before, last, rfl⟩
  · simp [clusterEntity?, Payload.updateEntities, filled, Entity.create, entry.first]
  · have there (e : Entity) (named : e.name = ctx.cluster) (typed : e.type = "k8s:cluster") :
        Payload.updateEntities ctx.cluster "k8s:cluster" x.fill [e] = [x.fill e] :=
      Payload.updateEntities_singleton (Entity.is_eq_true.2 ⟨named, typed⟩) x.fill
    rw [List.concat_eq_append]
    simp only [clusterEntity?, List.getLast?_concat, Option.map_some, Option.toList_some]
    rw [there _ rfl rfl, filled, entry.again]
    simp

theorem enter (h : Booked integration version populated p) :
    Booked integration version (populated ++ [ctx]) (p.place x) where
  origin := h.origin
  clusters cluster := by
    rw [Payload.entitiesOf_place, h.clusters]
    by_cases own : ctx.cluster = cluster
    · subst own
      have here : x.is ctx.cluster "k8s:cluster" = true :=
        Placement.is_eq_true.2 ⟨entry.name, entry.type⟩
      rw [if_pos here, updateEntities_entry entry, List.filter_append]
      simp
    · have elsewhere : ¬ x.is cluster "k8s:cluster" = true := fun here =>
        own (entry.name.symm.trans (Placement.is_eq_true.1 here).1)
      rw [if_neg elsewhere, List.filter_append]
      simp [own]
  others := Payload.StocksOnly.place h.others (.inr entry.type)

end Booked

theorem type_ne_of_emission {ctx : CycleContext} {families : List Family} {x : Emission}
    (h : x ∈ (populationOf ctx families).emissions) : x.identity.type ≠ "k8s:cluster" := by
  obtain ⟨e, visited, emitted⟩ := (mem_emissions _).1 h
  obtain ⟨declared, _⟩ := mem_rawEntities.1 visited
  obtain ⟨metric, labels⟩ := (isObjectKind_of_declared declared).type
  have typed := (identity_eq_ok _ e (emits_of_mem emitted).resolved).2
  obtain ⟨start, ends⟩ := exists_start_of_fromLabels (labels ▸ typed)
  rw [ends]
  exact (clusterEntityType_ne_of_declared declared).symm

theorem cycle_places (ctx : CycleContext) (named : ctx.cluster ≠ "") (families : List Family)
    (payload : Payload) :
    (dataSource.cycle ctx families payload).payload =
      ((populationOf ctx families).emissions.map (Emission.placement ctx.cluster) ++
        if (dataSource.cycle ctx families payload).report.populated then
          [(populationOf ctx families).clusterPlacement payload.name payload.version]
        else []).foldl Payload.place payload := by
  have cluster : (populationOf ctx families).cluster = ctx.cluster := rfl
  rw [cycle_payload, cycle_populated, payload_populate, populated_populate,
    placements_clusterShare, cluster]
  by_cases idle : (populationOf ctx families).attempts.countP Write.isAccepted = 0
  · simp [idle]
  · simp [idle, named, Nat.pos_of_ne_zero idle]

theorem advance_booked {integration version : String} {b : Books}
    (h : Booked integration version b.populated b.payload) {r : Round}
    (named : r.ctx.cluster ≠ "") :
    Booked integration version (b.advance r).populated (b.advance r).payload := by
  have objects := h.objects (l := (populationOf r.ctx r.families).emissions.map
      (Emission.placement r.ctx.cluster)) fun x hx => by
    obtain ⟨emission, emitted, rfl⟩ := List.mem_map.1 hx
    exact ⟨rfl, type_ne_of_emission emitted⟩
  have entry := isEntry_clusterPlacement r.ctx r.families integration version
  rw [b.payload_advance, b.populated_advance, cycle_places r.ctx named, h.origin.1, h.origin.2]
  cases (dataSource.cycle r.ctx r.families b.payload).report.populated with
  | false => simpa using objects
  | true =>
    rw [if_pos rfl, if_pos rfl, List.foldl_append]
    exact objects.enter entry

theorem foldl_advance_booked {integration version : String} {rounds : List Round}
    (named : ∀ r ∈ rounds, r.ctx.cluster ≠ "") {b : Books}
    (h : Booked integration version b.populated b.payload) :
    Booked integration version (rounds.foldl Books.advance b).populated
      (rounds.foldl Books.advance b).payload := by
  induction rounds generalizing b with
  | nil => exact h
  | cons r rounds ih =>
    rw [List.foldl_cons]
    exact ih (fun r' hr => named r' (List.mem_cons_of_mem _ hr))
      (advance_booked h (named r List.mem_cons_self))

/-- After every cycle of a run that starts with an empty payload, each cluster that was populated has
one entity, every other none; it holds one metric set for each of its populated cycles, in their
order, and the inventory of the last one; and no other entity has inventory. -/
theorem cycles_booked (integration version : String) (rounds : List Round)
    (named : ∀ r ∈ rounds, r.ctx.cluster ≠ "") (n : Nat) :
    let books := (rounds.take n).foldl Books.advance (.start integration version)
    Booked integration version books.populated books.payload :=
  foldl_advance_booked (fun r hr => named r (List.mem_of_mem_take hr))
    ⟨⟨rfl, rfl⟩, fun _ => rfl, fun _ none => absurd none List.not_mem_nil⟩

/-- A cluster whose name begins the type of all clusters, in three cycles of which one is empty. -/
theorem cycles_booked_twice :
    let namespaces : Family := ⟨"kube_namespace_created", .gauge,
      [⟨.ofList [("namespace", "web")], .gauge (.ofInt 1)⟩]⟩
    let round (k8sVersion : String) (families : List Family) : Round :=
      ⟨{ cluster := "k8s", k8sVersion }, families⟩
    let rounds := [round "1.30" [namespaces], round "1.30" [], round "1.31" [namespaces]]
    let books := (rounds.take 3).foldl Books.advance (.start "ksm" "1")
    (∀ r ∈ rounds, r.ctx.cluster ≠ "") ∧
      books.populated.map (·.k8sVersion) = ["1.30", "1.31"] ∧
      Booked "ksm" "1" books.populated books.payload := by
  intro namespaces round rounds books
  have named : ∀ r ∈ rounds, r.ctx.cluster ≠ "" := by simp [rounds, round]
  exact ⟨named, by decide +kernel, cycles_booked "ksm" "1" rounds named 3⟩

end KubeEntities.StateMetrics
