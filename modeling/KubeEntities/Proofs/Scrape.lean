import KubeEntities.Scrape
import KubeEntities.StateMetrics

/-! Scraping as a walk over readings. On a machine whose state may change with every fetch and every
look at the clock, a scrape takes in the readings of its sources in order, through the first one
whose body populates a payload (`run_scrapeFrom`). What it hands over is what this body gives alone
(`run_scrape`). -/

namespace KubeEntities

/-- What fetching a source gave, and the seconds until the body was processed. -/
structure Reading where
  endpoint : String
  reply : Except SourceError String
  seconds : Number

def Reading.failure? (r : Reading) : Option (String × SourceError) :=
  match r.reply with
  | .error e => some (r.endpoint, e)
  | .ok _ => none

def Source.read {m : Type → Type} [Monad m] (clock : m Nat) (source : Source m) : m Reading := do
  let begun ← clock
  match ← source.fetch with
  | .error e => return ⟨source.description, .error e, .zero false⟩
  | .ok body =>
    let ended ← clock
    return ⟨source.description, .ok body, .ofRatio false (ended - begun) (Nat.pow 10 9)⟩

/-- Every source is read, one after the other; with each reading comes the state that it leaves. -/
def Source.readAll {σ : Type} (clock : StateM σ Nat) :
    List (Source (StateM σ)) → σ → List (Reading × σ)
  | [], _ => []
  | source :: rest, world =>
    let read := (source.read clock).run world
    read :: readAll clock rest read.2

@[simp] theorem Source.endpoint_read {σ : Type} (clock : StateM σ Nat)
    (source : Source (StateM σ)) (world : σ) :
    ((source.read clock).run world).1.endpoint = source.description := by
  rw [Source.read, StateT.run_bind]
  obtain ⟨begun, ready⟩ := clock.run world
  change ((_ >>= _ : StateM σ Reading).run ready).1.endpoint = _
  rw [StateT.run_bind]
  obtain ⟨reply, fetched⟩ := source.fetch.run ready
  cases reply <;> rfl

theorem Source.map_endpoint_readAll {σ : Type} (clock : StateM σ Nat)
    (sources : List (Source (StateM σ))) (world : σ) :
    (Source.readAll clock sources world).map (·.1.endpoint) = sources.map (·.description) := by
  induction sources generalizing world with
  | nil => rfl
  | cons source rest ih => simp [Source.readAll, ih]

theorem Source.exists_of_readAll {σ : Type} {clock : StateM σ Nat}
    {sources : List (Source (StateM σ))} {world after : σ} {i : Nat} {r : Reading}
    (there : (Source.readAll clock sources world)[i]? = some (r, after)) :
    ∃ source, sources[i]? = some source ∧ source.description = r.endpoint := by
  have named : (sources.map (·.description))[i]? = some r.endpoint := by
    rw [← Source.map_endpoint_readAll clock sources world, List.getElem?_map, there]
    rfl
  simpa using named

theorem Source.readAll_take {σ : Type} (clock : StateM σ Nat) (sources : List (Source (StateM σ)))
    (world : σ) (n : Nat) :
    Source.readAll clock (sources.take n) world = (Source.readAll clock sources world).take n := by
  induction sources generalizing world n with
  | nil => simp [Source.readAll]
  | cons source rest ih =>
    cases n with
    | zero => rfl
    | succ n => simp [Source.readAll, ih]

/-- A list through its first element with a property. -/
def upTo {α : Type} (p : α → Bool) : List α → List α
  | [] => []
  | a :: l => if p a then [a] else a :: upTo p l

theorem upTo_of_findIdx? {α : Type} {p : α → Bool} {l : List α} :
    upTo p l = (l.findIdx? p).elim l fun i => l.take (i + 1) := by
  induction l with
  | nil => rfl
  | cons a l ih =>
    cases found : p a with
    | true => simp [upTo, List.findIdx?_cons, found]
    | false =>
      rw [upTo, List.findIdx?_cons, found, ih]
      cases l.findIdx? p <;> simp

theorem upTo_upTo {α : Type} (p : α → Bool) (l : List α) : upTo p (upTo p l) = upTo p l := by
  induction l with
  | nil => rfl
  | cons a l ih => cases found : p a <;> simp [upTo, found, ih]

namespace Scraper

section
variable (s : Scraper) (data : DataSource) (ctx : CycleContext)

/-- The cycle over a body, into a payload of its own. -/
def alone (body : String) : Cycle :=
  data.cycle ctx (Exposition.parse body).families s.blankPayload

def cycle? (r : Reading) : Option Cycle := r.reply.toOption.map (s.alone data ctx)

def populatedBy (r : Reading) : Bool := (s.cycle? data ctx r).any (·.report.populated)

def note (o : ScrapeOutcome) (r : Reading) : ScrapeOutcome :=
  match r.reply with
  | .error e => noteFailure o r.endpoint e
  | .ok body => noteCycle o r.endpoint (s.attempt data ctx r.endpoint body) r.seconds

section
variable {data ctx} {r : Reading} {e : SourceError} {body : String}

theorem cycle?_of_error (h : r.reply = .error e) : s.cycle? data ctx r = none := by
  rw [cycle?, h]
  rfl

theorem cycle?_of_body (h : r.reply = .ok body) :
    s.cycle? data ctx r = some (s.alone data ctx body) := by
  rw [cycle?, h]
  rfl

theorem note_of_error (h : r.reply = .error e) (o : ScrapeOutcome) :
    s.note data ctx o r = noteFailure o r.endpoint e := by
  rw [note, h]

theorem note_of_body (h : r.reply = .ok body) (o : ScrapeOutcome) :
    s.note data ctx o r =
      noteCycle o r.endpoint (s.attempt data ctx r.endpoint body) r.seconds := by
  rw [note, h]

end

theorem scrapeFrom_cons {m : Type → Type} [Monad m] [LawfulMonad m] (clock : m Nat)
    (o : ScrapeOutcome) (source : Source m) (rest : List (Source m)) :
    s.scrapeFrom clock data ctx o (source :: rest) = (do
      let r ← source.read clock
      if s.populatedBy data ctx r then return s.note data ctx o r
      else s.scrapeFrom clock data ctx (s.note data ctx o r) rest) := by
  rw [scrapeFrom, Source.read, bind_assoc]
  congr 1
  funext begun
  rw [bind_assoc]
  congr 1
  funext reply
  cases reply with
  | error e =>
    dsimp only
    rw [pure_bind]
    rfl
  | ok body =>
    dsimp only
    rw [bind_assoc]
    congr 1
    funext ended
    rw [pure_bind]
    rfl

theorem run_scrapeFrom {σ : Type} (clock : StateM σ Nat) (sources : List (Source (StateM σ)))
    (o : ScrapeOutcome) (world : σ) :
    let tried := upTo (fun r => s.populatedBy data ctx r.1) (Source.readAll clock sources world)
    (s.scrapeFrom clock data ctx o sources).run world =
      ((tried.map (·.1)).foldl (s.note data ctx) o, (tried.getLast?.map (·.2)).getD world) := by
  induction sources generalizing o world with
  | nil => rfl
  | cons source rest ih =>
    rw [scrapeFrom_cons, StateT.run_bind, Source.readAll]
    obtain ⟨r, after⟩ := (source.read clock).run world
    change StateT.run (if s.populatedBy data ctx r then _ else _) after = _
    cases populated : s.populatedBy data ctx r with
    | true => simp only [upTo, populated, if_true]; rfl
    | false =>
      simp only [upTo, populated, Bool.false_eq_true, if_false]
      refine (ih (s.note data ctx o r) after).trans ?_
      -- the last of the rest if there is one, else this reading
      rw [List.getLast?_cons]
      generalize upTo _ (Source.readAll clock rest after) = tried
      cases tried.getLast? <;> rfl

theorem sourceErrors_foldl_note (l : List Reading) (o : ScrapeOutcome) :
    (l.foldl (s.note data ctx) o).sourceErrors =
      o.sourceErrors ++ l.filterMap Reading.failure? := by
  induction l generalizing o with
  | nil => exact (List.append_nil _).symm
  | cons r l ih =>
    rw [List.foldl_cons, ih]
    cases reply : r.reply with
    | error e => simp [s.note_of_error reply, noteFailure, Reading.failure?, reply]
    | ok body => simp [s.note_of_body reply, noteCycle, Reading.failure?, reply]

theorem handed_foldl_note (l : List Reading) (o : ScrapeOutcome) :
    let last := (l.filterMap (s.cycle? data ctx)).getLast?
    (l.foldl (s.note data ctx) o).payload = last.elim o.payload (·.payload) ∧
      (l.foldl (s.note data ctx) o).report = (last.map (·.report)).or o.report := by
  induction l generalizing o with
  | nil => exact ⟨rfl, rfl⟩
  | cons r l ih =>
    obtain ⟨payload, report⟩ := ih (s.note data ctx o r)
    rw [List.foldl_cons]
    dsimp only
    rw [payload, report]
    cases reply : r.reply with
    | error e => simp [s.note_of_error reply, s.cycle?_of_error reply, noteFailure]
    | ok body =>
      rw [List.filterMap_cons_some (s.cycle?_of_body reply), List.getLast?_cons,
        s.note_of_body reply]
      cases (l.filterMap (s.cycle? data ctx)).getLast? <;> exact ⟨rfl, rfl⟩

theorem endpoint_foldl_note {l : List Reading} (h : ∀ r ∈ l, s.populatedBy data ctx r = false)
    {o : ScrapeOutcome} (none_yet : o.endpoint = none) :
    (l.foldl (s.note data ctx) o).endpoint = none := by
  induction l generalizing o with
  | nil => exact none_yet
  | cons r l ih =>
    have first := h r List.mem_cons_self
    refine ih (fun t ht => h t (List.mem_cons_of_mem _ ht)) ?_
    cases reply : r.reply with
    | error e => simpa [s.note_of_error reply, noteFailure] using none_yet
    | ok body =>
      rw [populatedBy, s.cycle?_of_body reply, Option.any_some] at first
      rw [s.note_of_body reply]
      exact if_neg (Bool.eq_false_iff.1 first)

theorem exists_body {r : Reading} (h : s.populatedBy data ctx r = true) :
    ∃ body, r.reply = .ok body ∧ (s.alone data ctx body).report.populated = true := by
  cases reply : r.reply with
  | error e =>
    rw [populatedBy, s.cycle?_of_error reply] at h
    cases h
  | ok body =>
    rw [populatedBy, s.cycle?_of_body reply] at h
    exact ⟨body, rfl, h⟩

section
variable {σ : Type} {clock : StateM σ Nat} {sources : List (Source (StateM σ))} {world : σ}

theorem run_scrape_of_findIdx? {i : Nat}
    (found : (Source.readAll clock sources world).findIdx?
      (fun r => s.populatedBy data ctx r.1) = some i) :
    ∃ r, (Source.readAll clock sources world)[i]? = some r ∧
      s.populatedBy data ctx r.1 = true ∧
      (s.scrape clock data ctx sources).run world =
        (s.note data ctx ((((Source.readAll clock sources world).take i).map (·.1)).foldl
          (s.note data ctx) s.start) r.1, r.2) := by
  obtain ⟨bound, populated, _⟩ := List.findIdx?_eq_some_iff_getElem.1 found
  refine ⟨_, List.getElem?_eq_getElem bound, populated, ?_⟩
  rw [scrape, run_scrapeFrom, upTo_of_findIdx?, found, Option.elim,
    List.take_succ_eq_append_getElem bound]
  simp only [List.map_append, List.map_cons, List.map_nil, List.foldl_append, List.foldl_cons,
    List.foldl_nil, List.getLast?_concat, Option.map_some, Option.getD_some]

theorem run_scrape_of_unpopulated
    (none_found : (Source.readAll clock sources world).findIdx?
      (fun r => s.populatedBy data ctx r.1) = none) :
    ((s.scrape clock data ctx sources).run world).1 =
      ((Source.readAll clock sources world).map (·.1)).foldl (s.note data ctx) s.start := by
  rw [scrape, run_scrapeFrom, upTo_of_findIdx?, none_found, Option.elim]

theorem run_scrape_take {i : Nat}
    (found : (Source.readAll clock sources world).findIdx?
      (fun r => s.populatedBy data ctx r.1) = some i) :
    (s.scrape clock data ctx (sources.take (i + 1))).run world =
      (s.scrape clock data ctx sources).run world := by
  have tried : upTo (fun r => s.populatedBy data ctx r.1) (Source.readAll clock sources world) =
      (Source.readAll clock sources world).take (i + 1) := by
    rw [upTo_of_findIdx?, found]
    rfl
  rw [scrape, scrape, run_scrapeFrom, run_scrapeFrom, Source.readAll_take, ← tried, upTo_upTo]

end

/-- A scrape hands over what the first body that populates gives alone, and reads no source behind
that one; if there is none, what the last body gives alone. -/
theorem run_scrape {σ : Type} (clock : StateM σ Nat) (sources : List (Source (StateM σ)))
    (world : σ) :
    let readings := Source.readAll clock sources world
    let run := (s.scrape clock data ctx sources).run world
    match readings.findIdx? fun r => s.populatedBy data ctx r.1 with
    | some i =>
      ∃ source body seconds,
        sources[i]? = some source ∧
        readings[i]? = some (⟨source.description, .ok body, seconds⟩, run.2) ∧
        run.1.payload = (s.alone data ctx body).payload ∧
        run.1.report = some (s.alone data ctx body).report ∧
        run.1.endpoint = some source.description ∧
        run.1.sourceErrors = (readings.take i).filterMap (·.1.failure?) ∧
        (s.scrape clock data ctx (sources.take (i + 1))).run world = run
    | none =>
      let last := (readings.filterMap fun r => s.cycle? data ctx r.1).getLast?
      run.1.payload = last.elim s.blankPayload (·.payload) ∧
        run.1.report = last.map (·.report) ∧
        run.1.endpoint = none ∧
        run.1.sourceErrors = readings.filterMap (·.1.failure?) := by
  intro readings run
  cases found : readings.findIdx? fun r => s.populatedBy data ctx r.1 with
  | some i =>
    obtain ⟨⟨⟨endpoint, reply, seconds⟩, after⟩, there, populated, walked⟩ :=
      s.run_scrape_of_findIdx? data ctx found
    obtain ⟨body, rfl, filled⟩ := s.exists_body data ctx populated
    obtain ⟨source, listed, rfl⟩ := Source.exists_of_readAll there
    have truncated : _ = run := s.run_scrape_take data ctx found
    change run = _ at walked
    rw [walked] at truncated ⊢
    have errors := s.sourceErrors_foldl_note data ctx ((readings.take i).map (·.1)) s.start
    rw [List.filterMap_map] at errors
    refine ⟨source, body, seconds, listed, there, rfl, rfl, ?_, errors, truncated⟩
    exact if_pos filled
  | none =>
    have walked : run.1 = _ := s.run_scrape_of_unpopulated data ctx found
    have unpopulated : ∀ r ∈ readings.map (·.1), s.populatedBy data ctx r = false := by
      intro r hr
      obtain ⟨read, hread, rfl⟩ := List.mem_map.1 hr
      exact List.findIdx?_eq_none_iff.1 found read hread
    obtain ⟨payload, report⟩ := s.handed_foldl_note data ctx (readings.map (·.1)) s.start
    have errors := s.sourceErrors_foldl_note data ctx (readings.map (·.1)) s.start
    rw [List.filterMap_map] at payload report errors
    rw [walked]
    refine ⟨payload, report.trans ?_, s.endpoint_foldl_note data ctx unpopulated rfl, errors⟩
    exact Option.or_none

end

/-- Of four sources, the fourth is left alone. -/
example :
    let source (name : String) (reply : Except SourceError String) :
        Source (StateM (List String)) := ⟨name, fun fetched => (reply, fetched ++ [name])⟩
    let body := "kube_node_info\x7bnode=\"n1\"\x7d 1\n"
    let ctx : CycleContext := { cluster := "c", k8sVersion := "1.30" }
    let run := (Scraper.scrape ⟨"ksm", "1"⟩ (pure 0) StateMetrics.dataSource ctx [
      source "gone" (.error (.read "gone" .notFound)), source "blank" (.ok ""),
      source "full" (.ok body), source "spare" (.ok body)]).run []
    run.2 = ["gone", "blank", "full"] ∧ run.1.endpoint = some "full" ∧
      run.1.sourceErrors = [("gone", .read "gone" .notFound)] := by
  decide +kernel

end Scraper
end KubeEntities
