import KubeEntities.Proofs.Exposition.Kinds
import KubeEntities.Proofs.Json.Written
import KubeEntities.Series.Record

/-! The text of a family. A family is read back from its text if its numbers are finite, and is not
read at all otherwise, for JSON has no text for the other numbers (`Family.ofText?_text`). So of an
exposition those families are lost that have a sample which is NaN or infinite
(`Exposition.parse_reread`). -/

namespace KubeEntities

theorem mapM_eq_if_all {α β : Type} {write : α → β} {read : β → Option α} {good : α → Bool}
    (each : ∀ a, read (write a) = if good a then some a else none) (items : List α) :
    (items.map write).mapM read = if items.all good then some items else none := by
  induction items with
  | nil => rfl
  | cons a items ih =>
    rw [List.map_cons, List.mapM_cons, each, ih, List.all_cons]
    cases good a <;> cases items.all good <;> rfl

/-- A value whose number, if it has one, JSON can spell. -/
def Value.isFinite (v : Value) : Bool := v.number?.all Number.isFinite

theorem Value.ofJson?_written (v : Value) :
    ofJson? v.toJson.written = if v.isFinite then some v else none := by
  cases v with
  | absent => rfl
  | counter x | gauge x | untyped x =>
    cases finite : x.isFinite <;>
      simp [toJson, Json.written, Json.writtenMembers, ofJson?, Json.choice?, isFinite, number?,
        Scalar.written, finite, Json.number?]

theorem labelsToJson_written (labels : Labels) :
    (labelsToJson labels).written = labelsToJson labels := by
  simp [labelsToJson, Json.ofMap, Json.written, Json.writtenMembers_eq_map, SortedMap.map,
    Scalar.written]

theorem stringMap?_labelsToJson (labels : Labels) :
    (labelsToJson labels).stringMap? = some labels := by
  have members : (labels.map fun _ value => Json.str value).entries.mapM Json.member? =
      some labels.entries := by
    have read : (labels.entries.map fun e => (e.1, Json.str e.2)).mapM Json.member? =
        if labels.entries.all fun _ => true then some labels.entries else none :=
      mapM_eq_if_all (fun e => show Json.member? (e.1, Json.str e.2) = some e from rfl) _
    exact read.trans (if_pos (by simp))
  simp only [labelsToJson, Json.ofMap, Json.stringMap?, members, Option.map_some]
  exact congrArg some (SortedMap.ofList_of_perm (List.Perm.refl _))

theorem Value.scalar_of_mem_toJson {v : Value} {scalar : Scalar} (h : scalar ∈ v.toJson.scalars) :
    (∃ text, scalar = .str text) ∨ ∃ x, v.number? = some x ∧ scalar = .float x := by
  cases v with
  | absent => exact .inl ⟨_, List.mem_singleton.1 h⟩
  | counter x | gauge x | untyped x => exact .inr ⟨x, rfl, List.mem_singleton.1 h⟩

namespace Series

theorem scalar_of_mem_toJson {s : Series} {scalar : Scalar} (h : scalar ∈ s.toJson.scalars) :
    (∃ text, scalar = .str text) ∨ ∃ x, s.value.number? = some x ∧ scalar = .float x := by
  rcases List.mem_append.1 h with labels | value
  · obtain ⟨name, text, found, held⟩ := Json.mem_scalars_ofMap.1 labels
    rw [SortedMap.find?_map] at found
    obtain ⟨text, _, rfl⟩ := Option.map_eq_some_iff.1 found
    exact .inl ⟨text, List.mem_singleton.1 held⟩
  · exact Value.scalar_of_mem_toJson (by simpa [Json.scalarsMembers] using value)

theorem ofJson?_written (s : Series) :
    ofJson? s.toJson.written = if s.value.isFinite then some s else none := by
  have labels : (labelsToJson s.labels).written.stringMap? = some s.labels := by
    rw [labelsToJson_written, stringMap?_labelsToJson]
  have fields : s.toJson.written.fields? ["labels", "value"] =
      some [some (labelsToJson s.labels).written, some s.value.toJson.written] := rfl
  rw [ofJson?, fields]
  dsimp only
  rw [labels, Value.ofJson?_written]
  cases s.value.isFinite <;> rfl

end Series

namespace Family

def isFinite (f : Family) : Bool := f.series.all (·.value.isFinite)

theorem ofJson?_written (f : Family) :
    ofJson? f.toJson.written = if f.isFinite then some f else none := by
  have series : (Json.arr (f.series.map Series.toJson)).written =
      .arr (f.series.map fun s => s.toJson.written) := by
    rw [Json.written, Json.writtenItems_eq_map, List.map_map]
    rfl
  have fields : f.toJson.written.fields? ["name", "metric_type", "metrics"] =
      some [some (.str f.name), some f.kind.toJson,
        some (.arr (f.series.map fun s => s.toJson.written))] := by
    rw [← series]
    rfl
  have read : (f.series.map fun s => s.toJson.written).mapM Series.ofJson? =
      if f.isFinite then some f.series else none :=
    mapM_eq_if_all Series.ofJson?_written f.series
  rw [ofJson?, fields]
  dsimp only
  rw [Kind.ofJson?_toJson]
  simp only [Json.str?, Json.items?, Option.bind_some, read]
  cases f.isFinite <;> rfl

def text (indented : Bool) (f : Family) : String := f.toJson.render indented

def ofText? (text : String) : Option Family := (Json.read? text).bind ofJson?

/-- The text of each finite number in the family is read as that number. A reader that rounds twice
does not give this for every number. -/
def NumbersReadBack (f : Family) : Prop :=
  ∀ s ∈ f.series, ∀ x ∈ s.value.number?, x.isFinite = true → x.ReadsBack

instance (f : Family) : Decidable f.NumbersReadBack :=
  inferInstanceAs
    (Decidable (∀ s ∈ f.series, ∀ x ∈ s.value.number?, x.isFinite = true → x.ReadsBack))

theorem readsBack_of_mem_scalars {f : Family} (reads : f.NumbersReadBack) :
    ∀ s ∈ f.toJson.scalars, s.written.ReadsBack := by
  intro s hs
  simp only [toJson, Kind.toJson, Json.scalars, Json.scalarsMembers, List.append_nil,
    List.mem_append, List.mem_singleton, Json.mem_scalarsItems, List.mem_map] at hs
  rcases hs with rfl | rfl | ⟨_, ⟨series, inside, rfl⟩, held⟩
  · trivial
  · trivial
  · rcases series.scalar_of_mem_toJson held with ⟨text, rfl⟩ | ⟨x, number, rfl⟩
    · trivial
    · cases finite : x.isFinite with
      | true =>
        rw [Scalar.written, if_pos finite]
        exact reads series inside x number finite
      | false => simp [Scalar.written, finite, Scalar.ReadsBack]

theorem ofText?_text {f : Family} (reads : f.NumbersReadBack) (indented : Bool) :
    ofText? (f.text indented) = if f.isFinite then some f else none := by
  rw [ofText?, text, Json.read?_render_written indented (readsBack_of_mem_scalars reads)]
  exact f.ofJson?_written

end Family

theorem Value.isFinite_ofKind (kind : Kind) (x : Number) :
    (Value.ofKind kind x).isFinite = true ↔ kind = .summary ∨ x.isFinite = true := by
  cases kind <;> simp [ofKind, isFinite, number?]

namespace Exposition

theorem isFinite_iff_of_mem_gather {lines : List Line} {f : Family}
    (h : f ∈ gather (filings lines)) :
    f.isFinite = true ↔ ∀ before s after, lines = before ++ .sample s :: after → s.name = f.name →
      kindAfter before f.name = .summary ∨ s.number.isFinite = true := by
  obtain ⟨first, others, mine, _, series⟩ := mem_gather h
  rw [Family.isFinite, series, ← mine]
  simp only [List.all_eq_true, List.forall_mem_map, List.mem_filter, beq_iff_eq, Filing.series,
    Value.isFinite_ofKind, mem_filings]
  constructor
  · intro finite before s after cut same
    rw [← same]
    exact finite ⟨s, kindAfter before s.name⟩ ⟨⟨before, after, cut, rfl⟩, same⟩
  · rintro finite entry ⟨⟨before, after, cut, kind⟩, same⟩
    rw [kind, same]
    exact finite before entry.sample after cut same

/-- A family that was read is read back from its text, in either form, exactly if none of its
samples is NaN or infinite, but for the quantiles of a summary. With such a sample its text cannot
be read as a family at all. -/
theorem parse_reread (body : String) :
    let lines := (Text.lines body).map Line.ofChars
    ∀ f ∈ (Exposition.parse body).families, f.NumbersReadBack →
      (∀ indented, Family.ofText? (f.text indented) = if f.isFinite then some f else none) ∧
      (f.isFinite = true ↔
        ∀ before s after, lines = before ++ .sample s :: after → s.name = f.name →
          kindAfter before f.name = .summary ∨ s.number.isFinite = true) := by
  intro lines f hf reads
  rw [parse_eq] at hf
  exact ⟨Family.ofText?_text reads, isFinite_iff_of_mem_gather hf⟩

theorem parse_reread_quoted :
    let body := "# TYPE a counter\na\x7bb=\"\\\"é\\n\"\x7d 0.5\n# TYPE q summary\nq NaN\n"
    let half : Number := .finite false ⟨Nat.pow 2 52, 1021, by decide⟩
    let a : Family := ⟨"a", .counter, [⟨.ofList [("b", "\"é\n")], .counter half⟩]⟩
    let q : Family := ⟨"q", .summary, [⟨∅, .absent⟩]⟩
    (Exposition.parse body).families = [a, q] ∧
      ∀ f ∈ [a, q], f.NumbersReadBack ∧ ∀ indented, Family.ofText? (f.text indented) = some f := by
  intro body half a q
  have read : (Exposition.parse body).families = [a, q] := by decide +kernel
  have good : ∀ f ∈ [a, q], f.NumbersReadBack ∧ f.isFinite = true := by decide +kernel
  refine ⟨read, fun f hf => ⟨(good f hf).1, fun indented => ?_⟩⟩
  rw [(parse_reread body f (read ▸ hf) (good f hf).1).1 indented, if_pos (good f hf).2]

/-- A sample that is NaN. -/
theorem parse_reread_nan :
    let f : Family := ⟨"up", .untyped, [⟨∅, .untyped .nan⟩]⟩
    f ∈ (Exposition.parse "up NaN\n").families ∧ f.NumbersReadBack ∧
      f.text false = "\x7b\"name\":\"up\",\"metric_type\":\"untyped\",\"metrics\":" ++
        "[\x7b\"labels\":\x7b\x7d,\"value\":\x7b\"Untyped\":null\x7d\x7d]\x7d" ∧
      ∀ indented, Family.ofText? (f.text indented) ≠ some f := by
  intro f
  have inside : f ∈ (Exposition.parse "up NaN\n").families := by decide +kernel
  have reads : f.NumbersReadBack := by decide +kernel
  refine ⟨inside, reads, by decide +kernel, fun indented => ?_⟩
  rw [Family.ofText?_text reads, if_neg (by decide)]
  exact (Option.some_ne_none f).symm

end Exposition
end KubeEntities
