import KubeEntities.Proofs.Exposition.Items

/-! Reading is local to each metric. The kind of a name is decided by the lines about it
(`kindAfter_filter`), so the samples of a name are filed alike when all other lines are left out
(`filings_filter`), and the family of the name is the same. Lines about other metrics, refused lines
and comments may stand anywhere (`parse_local`). -/

namespace KubeEntities.Exposition

def Line.metric? : Line → Option String
  | .declaration name _ => some name
  | .sample s => some s.name
  | _ => none

def Line.isAbout (name : String) (line : Line) : Bool := line.metric? == some name

/-- The lines of a body about one metric, in their order. -/
def linesOf (name body : String) : List (List Char) :=
  (Text.lines body).filter fun raw => (Line.ofChars raw).isAbout name

def bodyOf (lines : List (List Char)) : String := String.ofList (lines.flatMap (· ++ ['\n']))

theorem kindAfter_filter (name : String) (lines : List Line) :
    kindAfter (lines.filter (Line.isAbout name)) name = kindAfter lines name := by
  have declared : ∀ line ∈ lines,
      (if line.isAbout name then line.kindOf? name else none) = line.kindOf? name := by
    intro line _
    cases line with
    | declaration other kind =>
      by_cases same : other = name <;> simp [Line.isAbout, Line.metric?, Line.kindOf?, same]
    | _ => simp [Line.kindOf?]
  rw [kindAfter, List.filterMap_filter, List.filterMap_congr declared, kindAfter]

theorem filings_filter (name : String) (lines : List Line) :
    filings (lines.filter (Line.isAbout name)) = (filings lines).filter (·.name == name) := by
  induction lines using List.reverseRecOn with
  | nil => rfl
  | append_singleton lines line ih =>
    rw [List.filter_append, filings_concat, List.filter_append, ← ih]
    cases line with
    | sample s =>
      by_cases same : s.name = name
      · subst same
        simp [Line.isAbout, Line.metric?, filings_concat, Line.item?, Item.filing?, Filing.name,
          kindAfter_filter]
      · simp [Line.isAbout, Line.metric?, Line.item?, Item.filing?, Filing.name, same]
    | declaration other kind =>
      by_cases same : other = name <;>
        simp [Line.isAbout, Line.metric?, filings_concat, Line.item?, same]
    | _ => simp [Line.isAbout, Line.metric?, Line.item?, Item.filing?]

theorem refusals_filter (name : String) (lines : List Line) :
    refusals (lines.filter (Line.isAbout name)) = [] := by
  induction lines using List.reverseRecOn with
  | nil => rfl
  | append_singleton lines line ih =>
    rw [List.filter_append]
    cases about : line.isAbout name with
    | false => simpa [about] using ih
    | true =>
      cases line with
      | malformed cause => cases about
      | _ => simp [about, refusals_concat, ih, Line.item?, Item.cause?]

/-! Bodies -/

theorem lines_bodyOf_linesOf (name body : String) :
    Text.lines (bodyOf (linesOf name body)) = linesOf name body ++ [[]] := by
  refine Text.lines_ofList_ended fun raw about inside => ?_
  have whole := Text.not_isSeparator_of_mem_splitAt (List.mem_filter.1 about).1 '\n' inside
  cases whole

theorem map_ofChars_linesOf (name body : String) :
    (linesOf name body).map Line.ofChars =
      ((Text.lines body).map Line.ofChars).filter (Line.isAbout name) := by
  rw [List.filter_map]
  rfl

theorem linesOf_eq_nil {name body : String}
    (h : some name ∉ (Text.lines body).map fun raw => (Line.ofChars raw).metric?) :
    linesOf name body = [] := by
  refine List.filter_eq_nil_iff.2 fun raw there about => h ?_
  exact List.mem_map.2 ⟨raw, there, eq_of_beq about⟩

theorem parse_bodyOf_linesOf (name body : String) :
    Exposition.parse (bodyOf (linesOf name body)) =
      ⟨(Exposition.parse body).families.filter (·.name == name), []⟩ := by
  have last : Line.ofChars [] = .skipped := rfl
  rw [parse_eq, lines_bodyOf_linesOf, List.map_append, map_ofChars_linesOf, List.map_singleton, last,
    filings_concat, refusals_concat, filings_filter, refusals_filter, parse_eq body, filter_gather]
  simp [Line.item?]

/-- The family of a metric, or that there is none, depends on the lines about it and their order.
Lines about several metrics may change places: all that changes is the order of the families. -/
theorem parse_local (body : String) :
    (∀ name, Exposition.parse (bodyOf (linesOf name body)) =
      ⟨(Exposition.parse body).families.filter (·.name == name), []⟩) ∧
    (∀ other name, linesOf name other = linesOf name body →
      (Exposition.parse other).families.filter (·.name == name) =
        (Exposition.parse body).families.filter (·.name == name)) ∧
    ∀ other, (∀ name, linesOf name other = linesOf name body) →
      (Exposition.parse other).families.Perm (Exposition.parse body).families := by
  have one (other name : String) (same : linesOf name other = linesOf name body) :
      (Exposition.parse other).families.filter (·.name == name) =
        (Exposition.parse body).families.filter (·.name == name) := by
    have read := parse_bodyOf_linesOf name other
    rw [same, parse_bodyOf_linesOf] at read
    exact (congrArg Exposition.families read).symm
  refine ⟨fun name => parse_bodyOf_linesOf name body, one, fun other same => ?_⟩
  have distinct (body : String) : (Exposition.parse body).families.Nodup := by
    rw [parse_eq]
    exact List.Pairwise.of_map _ (fun _ _ other same => other (congrArg Family.name same))
      (nodup_names_gather _)
  refine (List.perm_ext_iff_of_nodup (distinct other) (distinct body)).2 fun f => ?_
  have inside (families : List Family) :
      f ∈ families ↔ f ∈ families.filter (·.name == f.name) := by simp
  rw [inside, one other f.name (same f.name), ← inside]

theorem parse_local_shuffled :
    let body := "# TYPE a gauge\na 1\nb 2\na 3\n"
    let other := "b 2\n# TYPE a gauge\nb\n# note\na 1\na 3\n"
    (∀ name, linesOf name other = linesOf name body) ∧
      (Exposition.parse other).families ≠ (Exposition.parse body).families ∧
      (Exposition.parse other).families.Perm (Exposition.parse body).families := by
  intro body other
  have same : ∀ name, linesOf name other = linesOf name body := by
    intro name
    by_cases first : name = "a"
    · subst first
      decide +kernel
    · by_cases second : name = "b"
      · subst second
        decide +kernel
      · have metrics : (Text.lines body).map (fun raw => (Line.ofChars raw).metric?) =
            [some "a", some "a", some "b", some "a", none] := by decide +kernel
        have metrics' : (Text.lines other).map (fun raw => (Line.ofChars raw).metric?) =
            [some "b", some "a", none, none, some "a", some "a", none] := by decide +kernel
        have absent : linesOf name body = [] :=
          linesOf_eq_nil (by rw [metrics]; simp [first, second])
        have absent' : linesOf name other = [] :=
          linesOf_eq_nil (by rw [metrics']; simp [first, second])
        rw [absent, absent']
  exact ⟨same, by decide +kernel, (parse_local body).2.2 other same⟩

end KubeEntities.Exposition
