import KubeEntities.Proofs.Exposition.Filing
import KubeEntities.Proofs.Exposition.Form
import KubeEntities.Proofs.Exposition.RoundTrip
import Mathlib.Data.List.Basic

/-! What the lines of an exposition add to it. A line that is neither blank nor a comment is one item,
a sample or a refusal, and no other line is any (`numbers_items`). Reading the lines comes to
gathering the samples and listing the refusals (`ofLines_eq`), so that nothing is lost and nothing is
added (`parse_accounts`). -/

namespace KubeEntities.Exposition

inductive Item
  | filing (entry : Filing)
  | refusal (cause : LineError)

namespace Item

def filing? : Item → Option Filing
  | .filing entry => some entry
  | .refusal _ => none

def cause? : Item → Option LineError
  | .filing _ => none
  | .refusal cause => some cause

end Item

def Line.kindOf? (name : String) : Line → Option Kind
  | .declaration other kind => if other = name then some kind else none
  | _ => none

/-- The kind that a name has behind these lines: what the last of its declarations says. -/
def kindAfter (lines : List Line) (name : String) : Kind :=
  (lines.filterMap (Line.kindOf? name)).getLast?.getD .untyped

/-- What a line adds that comes after these. -/
def Line.item? (before : List Line) : Line → Option Item
  | .sample s => some (.filing ⟨s, kindAfter before s.name⟩)
  | .malformed cause => some (.refusal cause)
  | _ => none

/-- What all lines add, each item with the number of its line. -/
def items (lines : List Line) : List (Nat × Item) :=
  lines.zipIdx.filterMap fun e => (e.1.item? (lines.take e.2)).map fun item => (e.2 + 1, item)

def filings (lines : List Line) : List Filing := (items lines).filterMap (·.2.filing?)

def refusals (lines : List Line) : List ParseError :=
  (items lines).filterMap fun e => e.2.cause?.map (⟨e.1, ·⟩)

theorem kindAfter_concat (lines : List Line) (line : Line) (name : String) :
    kindAfter (lines ++ [line]) name = (line.kindOf? name).getD (kindAfter lines name) := by
  rw [kindAfter, List.filterMap_append]
  cases declared : line.kindOf? name <;> simp [declared, kindAfter]

theorem items_concat (lines : List Line) (line : Line) :
    items (lines ++ [line]) =
      items lines ++ ((line.item? lines).map fun item => (lines.length + 1, item)).toList := by
  have earlier : ∀ e ∈ lines.zipIdx, (lines ++ [line]).take e.2 = lines.take e.2 := by
    intro e he
    exact List.take_append_of_le_length (Nat.le_of_lt (List.snd_lt_of_mem_zipIdx he))
  rw [items, List.zipIdx_append, List.filterMap_append]
  congr 1
  · exact List.filterMap_congr fun e he => by rw [earlier e he]
  · cases added : line.item? lines <;> simp [added]

theorem filings_concat (lines : List Line) (line : Line) :
    filings (lines ++ [line]) = filings lines ++ ((line.item? lines).bind Item.filing?).toList := by
  rw [filings, items_concat, List.filterMap_append]
  cases line <;> rfl

theorem refusals_concat (lines : List Line) (line : Line) :
    refusals (lines ++ [line]) = refusals lines ++
      (((line.item? lines).bind Item.cause?).map (⟨lines.length + 1, ·⟩)).toList := by
  rw [refusals, items_concat, List.filterMap_append]
  cases line <;> rfl

theorem item?_eq_filing {before : List Line} {line : Line} {entry : Filing} :
    line.item? before = some (.filing entry) ↔
      line = .sample entry.sample ∧ entry.kind = kindAfter before entry.name := by
  constructor
  · intro added
    cases line with
    | sample s =>
      cases added
      exact ⟨rfl, rfl⟩
    | _ => cases added
  · obtain ⟨s, kind⟩ := entry
    rintro ⟨rfl, kinds⟩
    obtain rfl : kind = kindAfter before s.name := kinds
    rfl

theorem mem_filings {lines : List Line} {entry : Filing} : entry ∈ filings lines ↔
    ∃ before after, lines = before ++ .sample entry.sample :: after ∧
      entry.kind = kindAfter before entry.name := by
  constructor
  · intro h
    obtain ⟨⟨number, item⟩, found, filed⟩ := List.mem_filterMap.1 h
    obtain ⟨⟨line, i⟩, there, added⟩ := List.mem_filterMap.1 found
    obtain ⟨item', read, same⟩ := Option.map_eq_some_iff.1 added
    cases item' with
    | refusal cause =>
      cases same
      cases filed
    | filing entry' =>
      cases same
      obtain rfl := Option.some.inj filed
      obtain ⟨rfl, kinds⟩ := item?_eq_filing.1 read
      obtain ⟨bound, at_line⟩ :=
        List.getElem?_eq_some_iff.1 (List.mk_mem_zipIdx_iff_getElem?.1 there)
      refine ⟨lines.take i, lines.drop (i + 1), ?_, kinds⟩
      rw [← at_line, ← List.drop_eq_getElem_cons bound, List.take_append_drop]
  · rintro ⟨before, after, rfl, kinds⟩
    have there : (Line.sample entry.sample, before.length) ∈
        (before ++ Line.sample entry.sample :: after).zipIdx := by
      rw [List.mk_mem_zipIdx_iff_getElem?]
      simp
    refine List.mem_filterMap.2 ⟨(before.length + 1, .filing entry),
      List.mem_filterMap.2 ⟨_, there, ?_⟩, rfl⟩
    rw [List.take_left, item?_eq_filing.2 ⟨rfl, kinds⟩]
    rfl

/-- What is known once these lines have been read. -/
structure Progress.HasRead (p : Progress) (lines : List Line) : Prop where
  kinds : ∀ name, p.kindOf name = kindAfter lines name
  families : p.families = gather (filings lines)
  errors : p.errors = refusals lines

namespace Progress

theorem kindOf_add (p : Progress) (line : Line) (number : Nat) (name : String) :
    (p.add (line, number)).kindOf name = (line.kindOf? name).getD (p.kindOf name) := by
  cases line with
  | declaration declared kind =>
    by_cases same : declared = name
    · simp [add, kindOf, Line.kindOf?, SortedMap.find?_insert, same]
    · simp [add, kindOf, Line.kindOf?, SortedMap.find?_insert, same, Ne.symm same]
  | _ => rfl

theorem HasRead.add {p : Progress} {lines : List Line} (h : p.HasRead lines) (line : Line) :
    (p.add (line, lines.length + 1)).HasRead (lines ++ [line]) where
  kinds name := by rw [kindOf_add, kindAfter_concat, h.kinds]
  families := by
    rw [filings_concat]
    cases line with
    | sample s =>
      change addSeries s.name (p.kindOf s.name) ⟨s.labels, .ofKind (p.kindOf s.name) s.number⟩
        p.families = gather (filings lines ++ [⟨s, kindAfter lines s.name⟩])
      rw [gather_concat, h.families, h.kinds]
      rfl
    | _ => exact h.families.trans (congrArg gather (List.append_nil _).symm)
  errors := by
    rw [refusals_concat]
    cases line with
    | malformed cause =>
      change p.errors ++ [⟨lines.length + 1, cause⟩] = _
      rw [h.errors]
      rfl
    | _ => exact h.errors.trans (List.append_nil _).symm

theorem hasRead (lines : List Line) : (Progress.start.read 1 lines).HasRead lines := by
  induction lines using List.reverseRecOn with
  | nil => exact ⟨fun _ => rfl, rfl, rfl⟩
  | append_singleton lines line ih =>
    rw [read_append, Nat.add_comm 1]
    exact ih.add line

end Progress

theorem ofLines_eq (lines : List Line) :
    ofLines lines = ⟨gather (filings lines), refusals lines⟩ := by
  have read := Progress.hasRead lines
  rw [ofLines_eq_read, read.families, read.errors]

/-! The lines of a body -/

theorem isSome_item? (before : List Line) (raw : List Char) :
    ((Line.ofChars raw).item? before).isSome = isSampleLine raw := by
  cases counts : isSampleLine raw with
  | false =>
    rcases Line.ofChars_of_not_isSampleLine counts with read | ⟨name, kind, read⟩ <;>
      rw [read] <;> rfl
  | true =>
    rw [Line.ofChars_of_isSampleLine counts]
    cases Sample.ofChars (Text.trim raw) <;> rfl

theorem numbers_items (raws : List (List Char)) :
    (items (raws.map Line.ofChars)).map (·.1) =
      ((raws.zipIdx 1).filter fun line => isSampleLine line.1).map (·.2) := by
  induction raws using List.reverseRecOn with
  | nil => rfl
  | append_singleton raws raw ih =>
    have last := isSome_item? (raws.map Line.ofChars) raw
    rw [List.map_append, List.map_singleton, items_concat, List.map_append, ih, List.zipIdx_append,
      List.filter_append, List.map_append, List.length_map]
    congr 1
    cases added : (Line.ofChars raw).item? (raws.map Line.ofChars) with
    | none => simp [← last, added]
    | some item => simp [← last, added, Nat.add_comm]

theorem pairwise_items (raws : List (List Char)) :
    (items (raws.map Line.ofChars)).Pairwise fun e e' => e.1 < e'.1 := by
  have numbers : ((items (raws.map Line.ofChars)).map (·.1)).Sublist
      (List.range' 1 raws.length) := by
    rw [numbers_items, ← List.zipIdx_map_snd 1 raws]
    exact List.filter_sublist.map _
  exact List.pairwise_map.1 (List.Pairwise.sublist numbers List.pairwise_lt_range')

theorem pairwise_refusals (raws : List (List Char)) :
    (refusals (raws.map Line.ofChars)).Pairwise (·.line < ·.line) := by
  refine List.pairwise_filterMap.2 ((pairwise_items raws).imp ?_)
  rintro ⟨number, item⟩ ⟨number', item'⟩ earlier e he e' he'
  obtain ⟨cause, _, rfl⟩ := Option.map_eq_some_iff.1 he
  obtain ⟨cause', _, rfl⟩ := Option.map_eq_some_iff.1 he'
  exact earlier

theorem name_of_mem_filings {raws : List (List Char)} {entry : Filing}
    (h : entry ∈ filings (raws.map Line.ofChars)) :
    entry.name ≠ "" ∧ ∀ c ∈ entry.name.toList, endsName c = false := by
  obtain ⟨before, after, cut, _⟩ := mem_filings.1 h
  have inside : Line.sample entry.sample ∈ raws.map Line.ofChars := by simp [cut]
  obtain ⟨raw, _, read⟩ := List.mem_map.1 inside
  exact name_of_ofChars (Line.ofChars_eq_sample_iff.1 read).2

theorem parse_eq (body : String) : Exposition.parse body =
    ⟨gather (filings ((Text.lines body).map Line.ofChars)),
      refusals ((Text.lines body).map Line.ofChars)⟩ :=
  ofLines_eq _

/-- Every line that is neither blank nor a comment is one item of what is read, in the order of lines:
a refusal under the number of the line, or one more series of the family of its name. -/
theorem parse_accounts (body : String) :
    let lines := Text.lines body
    let found := items (lines.map Line.ofChars)
    let read := Exposition.parse body
    found.map (·.1) = ((lines.zipIdx 1).filter fun line => isSampleLine line.1).map (·.2) ∧
    read.errors = found.filterMap (fun e => e.2.cause?.map (⟨e.1, ·⟩)) ∧
    read.errors.Pairwise (·.line < ·.line) ∧
    read.families.map (·.name) =
      ((found.filterMap (·.2.filing?)).map (·.name)).eraseDups ∧
    (read.families.map (·.name)).Nodup ∧
    ∀ f ∈ read.families,
      f.series = ((found.filterMap (·.2.filing?)).filter (·.name == f.name)).map (·.series) ∧
      f.series ≠ [] ∧ f.name ≠ "" ∧ ∀ c ∈ f.name.toList, c ≠ '\x7b' ∧ Text.isBlank c = false := by
  intro lines found read
  have whole := parse_eq body
  refine ⟨numbers_items lines, congrArg Exposition.errors whole, ?_, ?_, ?_, fun f hf => ?_⟩
  · rw [show read = _ from whole]
    exact pairwise_refusals lines
  · rw [show read = _ from whole]
    exact names_gather _
  · rw [show read = _ from whole]
    exact nodup_names_gather _
  · rw [show read = _ from whole] at hf
    obtain ⟨first, others, mine, _, series⟩ := mem_gather hf
    have inside : first ∈ (filings (lines.map Line.ofChars)).filter (·.name == f.name) := by
      rw [mine]
      exact List.mem_cons_self
    obtain ⟨filed, same⟩ := List.mem_filter.1 inside
    obtain ⟨named, plain⟩ := name_of_mem_filings filed
    rw [eq_of_beq same] at named plain
    refine ⟨series.trans (congrArg _ mine.symm), by simp [series], named, fun c hc => ?_⟩
    simpa [endsName] using plain c hc

theorem parse_accounts_interleaved :
    let body := "# TYPE a gauge\na 1\nb\n\nc 5\na\x7bx=\"y\"\x7d 2\n"
    let a : Family := ⟨"a", .gauge,
      [⟨∅, .gauge (.ofInt 1)⟩, ⟨.ofList [("x", "y")], .gauge (.ofInt 2)⟩]⟩
    let found := items ((Text.lines body).map Line.ofChars)
    a ∈ (Exposition.parse body).families ∧
      found.map (·.1) = [2, 3, 5, 6] ∧
      (Exposition.parse body).errors = [⟨3, .noSampleValue⟩] ∧
      a.series = ((found.filterMap (·.2.filing?)).filter (·.name == a.name)).map (·.series) := by
  intro body a found
  have inside : a ∈ (Exposition.parse body).families := by decide +kernel
  have numbers : found.map (·.1) = [2, 3, 5, 6] := by decide +kernel
  have errors : (Exposition.parse body).errors = [⟨3, .noSampleValue⟩] := by decide +kernel
  exact ⟨inside, numbers, errors, ((parse_accounts body).2.2.2.2.2 a inside).1⟩

end KubeEntities.Exposition
