import KubeEntities.Proofs.Scrape
import Mathlib.Algebra.GroupWithZero.Nat

/-! What a scrape adds to the integration's own metrics. Every reading that is taken in has a share
in the counts, whether its source failed, its body populated nothing, or it ended the scrape
(`tally_note`); the outcome keeps one report, the counts keep all of them (`run_scrape_tally`). -/

namespace KubeEntities

namespace Tally

/-- A number that adds up when work is added up. -/
structure IsCount (count : Tally → Nat) : Prop where
  zero : count .zero = 0
  add : ∀ a b, count (a.add b) = count a + count b

def total (l : List Tally) : Tally := l.foldr add .zero

theorem IsCount.total {count : Tally → Nat} (counts : IsCount count) (l : List Tally) :
    count (total l) = (l.map count).sum := by
  induction l with
  | nil => exact counts.zero
  | cons t l ih =>
    rw [List.map_cons, List.sum_cons, ← ih]
    exact counts.add t (Tally.total l)

theorem add_assoc (a b c : Tally) : (a.add b).add c = a.add (b.add c) := by
  simp [add, Nat.add_assoc]

theorem add_zero (a : Tally) : a.add .zero = a := by
  simp [add, zero]

theorem zero_add (a : Tally) : zero.add a = a := by
  simp [add, zero]

end Tally

def Reading.body? (r : Reading) : Option String := r.reply.toOption

theorem length_filterMap_failure? (l : List Reading) :
    (l.filterMap Reading.failure?).length =
      (l.map fun r => r.body?.elim 1 fun _ => 0).sum := by
  induction l with
  | nil => rfl
  | cons r l ih =>
    rw [List.map_cons, List.sum_cons, ← ih]
    cases reply : r.reply with
    | error e => simp [Reading.failure?, Reading.body?, reply, Except.toOption, Nat.add_comm]
    | ok body => simp [Reading.failure?, Reading.body?, reply, Except.toOption]

theorem sum_bodies (count : String → Nat) (l : List Reading) :
    (l.map fun r => r.body?.elim 0 count).sum = ((l.filterMap Reading.body?).map count).sum := by
  induction l with
  | nil => rfl
  | cons r l ih =>
    rw [List.map_cons, List.sum_cons, ih]
    cases body : r.body? with
    | none => simp [List.filterMap_cons_none body]
    | some text => simp [List.filterMap_cons_some body]

namespace Scraper
variable (s : Scraper) (data : DataSource) (ctx : CycleContext)

def work (body : String) (seconds : Number) : Tally :=
  let report := (s.alone data ctx body).report
  { familiesScraped := (Exposition.parse body).families.length
    emptyGroups := report.groupErrors.length
    entitiesPopulated := report.entities
    metricsWritten := report.metricsWritten
    populationErrors := report.populateErrors.length
    cycles := [seconds] }

def share (r : Reading) : Tally :=
  r.body?.elim { endpointFailures := 1 } fun body => s.work data ctx body r.seconds

theorem tally_note (o : ScrapeOutcome) (r : Reading) :
    (s.note data ctx o r).tally = o.tally.add (s.share data ctx r) := by
  cases reply : r.reply with
  | error e =>
    rw [s.note_of_error reply, share, Reading.body?, reply]
    rfl
  | ok body =>
    rw [s.note_of_body reply, share, Reading.body?, reply]
    change (o.tally.add _).add _ = o.tally.add (s.work data ctx body r.seconds)
    rw [Tally.add_assoc]
    congr 1
    simp [attempt, work, alone, DataSource.cycle, Tally.add]

theorem tally_foldl_note (l : List Reading) (o : ScrapeOutcome) :
    (l.foldl (s.note data ctx) o).tally = o.tally.add (.total (l.map (s.share data ctx))) := by
  induction l generalizing o with
  | nil => exact o.tally.add_zero.symm
  | cons r l ih =>
    rw [List.foldl_cons, ih, tally_note, Tally.add_assoc]
    rfl

section
variable {count : Tally → Nat} (counts : Tally.IsCount count)
  (failed : count { endpointFailures := 1 } = 0)
include counts failed

theorem count_shares {each : String → Nat}
    (processed : ∀ body seconds, count (s.work data ctx body seconds) = each body)
    (l : List Reading) :
    count (.total (l.map (s.share data ctx))) = ((l.filterMap Reading.body?).map each).sum := by
  rw [counts.total, List.map_map, ← sum_bodies]
  congr 1
  refine List.map_congr_left fun r _ => ?_
  rw [Function.comp_apply, share]
  cases r.body? with
  | none => exact failed
  | some body => exact processed body r.seconds

theorem count_cycles {each : Cycle → Nat}
    (processed : ∀ body seconds,
      count (s.work data ctx body seconds) = each (s.alone data ctx body))
    (l : List Reading) :
    count (.total (l.map (s.share data ctx))) =
      (((l.filterMap Reading.body?).map (s.alone data ctx)).map each).sum := by
  rw [List.map_map]
  exact s.count_shares data ctx counts failed processed l

end

/-- Over one scrape the counters grow by the work on all bodies that were processed, of which only
the last is reported, and by the sources that failed. -/
theorem run_scrape_tally {σ : Type} (clock : StateM σ Nat) (sources : List (Source (StateM σ)))
    (world : σ) :
    let tried := (upTo (fun r => s.populatedBy data ctx r.1)
      (Source.readAll clock sources world)).map (·.1)
    let bodies := tried.filterMap Reading.body?
    let cycles := bodies.map (s.alone data ctx)
    let outcome := ((s.scrape clock data ctx sources).run world).1
    let grown := outcome.tally
    grown.endpointFailures = outcome.sourceErrors.length ∧
      grown.cycles.length = bodies.length ∧
      grown.familiesScraped = (bodies.map fun b => (Exposition.parse b).families.length).sum ∧
      grown.emptyGroups = (cycles.map (·.report.groupErrors.length)).sum ∧
      grown.entitiesPopulated = (cycles.map (·.report.entities)).sum ∧
      grown.metricsWritten = (cycles.map (·.report.metricsWritten)).sum ∧
      grown.populationErrors = (cycles.map (·.report.populateErrors.length)).sum ∧
      ∀ cycle ∈ cycles, cycle.report.entities = cycle.payload.entities.length := by
  intro tried bodies cycles outcome grown
  have walked : outcome = tried.foldl (s.note data ctx) s.start :=
    congrArg Prod.fst (s.run_scrapeFrom data ctx clock sources s.start world)
  have shared : grown = .total (tried.map (s.share data ctx)) := by
    change outcome.tally = _
    rw [walked, tally_foldl_note]
    exact Tally.zero_add _
  have errors : outcome.sourceErrors.length = (tried.filterMap Reading.failure?).length := by
    rw [walked, sourceErrors_foldl_note]
    rfl
  rw [shared]
  refine ⟨?_, ?_, ?_, ?_, ?_, ?_, ?_, ?_⟩
  · have failures : Tally.IsCount Tally.endpointFailures := ⟨rfl, fun _ _ => rfl⟩
    rw [failures.total, errors, length_filterMap_failure?, List.map_map]
    congr 1
    refine List.map_congr_left fun r _ => ?_
    rw [Function.comp_apply, share]
    cases r.body? <;> rfl
  · have processed : Tally.IsCount (·.cycles.length) := ⟨rfl, fun _ _ => List.length_append⟩
    have each := s.count_shares data ctx processed rfl (fun _ _ => rfl) tried
    rw [List.map_const', List.sum_replicate_nat, Nat.mul_one] at each
    exact each
  · have parsed : Tally.IsCount Tally.familiesScraped := ⟨rfl, fun _ _ => rfl⟩
    exact s.count_shares data ctx parsed rfl (fun _ _ => rfl) tried
  · have empty : Tally.IsCount Tally.emptyGroups := ⟨rfl, fun _ _ => rfl⟩
    exact s.count_cycles data ctx empty rfl (fun _ _ => rfl) tried
  · have populated : Tally.IsCount Tally.entitiesPopulated := ⟨rfl, fun _ _ => rfl⟩
    exact s.count_cycles data ctx populated rfl (fun _ _ => rfl) tried
  · have written : Tally.IsCount Tally.metricsWritten := ⟨rfl, fun _ _ => rfl⟩
    exact s.count_cycles data ctx written rfl (fun _ _ => rfl) tried
  · have errors : Tally.IsCount Tally.populationErrors := ⟨rfl, fun _ _ => rfl⟩
    exact s.count_cycles data ctx errors rfl (fun _ _ => rfl) tried
  · intro cycle processed
    obtain ⟨body, _, rfl⟩ := List.mem_map.1 processed
    exact Nat.sub_zero _

end Scraper
end KubeEntities
