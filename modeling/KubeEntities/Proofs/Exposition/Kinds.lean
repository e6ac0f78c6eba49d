import KubeEntities.Proofs.Exposition.Items

/-! The kinds of families and of their values. A family is of the kind that its name has at its first
sample (`kind_of_mem_gather`), a value of the kind that the name has at its own line. They agree
exactly when no sample of the family stands behind a declaration of another kind (`parse_kinds`). -/

namespace KubeEntities

theorem Value.kind_eq_of_ofKind_eq {kind kind' : Kind} {x y : Number}
    (h : Value.ofKind kind x = .ofKind kind' y) : kind = kind' := by
  cases kind <;> cases kind' <;> first | rfl | cases h

namespace Exposition

theorem exists_filings_append (lines more : List Line) :
    ∃ others, filings (lines ++ more) = filings lines ++ others := by
  induction more using List.reverseRecOn with
  | nil => exact ⟨[], by simp⟩
  | append_singleton more line ih =>
    obtain ⟨others, whole⟩ := ih
    exact ⟨others ++ ((line.item? (lines ++ more)).bind Item.filing?).toList, by
      rw [← List.append_assoc, filings_concat, whole, List.append_assoc]⟩

def Line.isSampleOf (name : String) : Line → Bool
  | .sample s => s.name == name
  | _ => false

theorem filter_filings_of_first {before : List Line} {s : Sample}
    (fresh : ∀ line ∈ before, line.isSampleOf s.name = false) (after : List Line) :
    ∃ others, (filings (before ++ .sample s :: after)).filter (·.name == s.name) =
      ⟨s, kindAfter before s.name⟩ :: others := by
  have none_yet : (filings before).filter (·.name == s.name) = [] := by
    refine List.filter_eq_nil_iff.2 fun entry filed same => ?_
    obtain ⟨before', after', cut, _⟩ := mem_filings.1 filed
    have earlier := fresh (.sample entry.sample) (by simp [cut])
    rw [Line.isSampleOf, show entry.sample.name = s.name from eq_of_beq same, beq_self_eq_true]
      at earlier
    cases earlier
  obtain ⟨others, whole⟩ := exists_filings_append (before ++ [.sample s]) after
  refine ⟨others.filter (·.name == s.name), ?_⟩
  rw [List.append_cons, whole, filings_concat, List.filter_append, List.filter_append, none_yet]
  simp [Line.item?, Item.filing?, Filing.name]

theorem kind_of_mem_gather {lines : List Line} {f : Family} (h : f ∈ gather (filings lines)) :
    ∃ before s after, lines = before ++ .sample s :: after ∧ s.name = f.name ∧
      (∀ line ∈ before, line.isSampleOf f.name = false) ∧ f.kind = kindAfter before f.name := by
  obtain ⟨first, others, mine, kind, _⟩ := mem_gather h
  have filed : first ∈ (filings lines).filter (·.name == f.name) := by simp [mine]
  obtain ⟨filed, named⟩ := List.mem_filter.1 filed
  obtain ⟨before', after', cut, _⟩ := mem_filings.1 filed
  have some_sample : (lines.find? (Line.isSampleOf f.name)).isSome = true := by
    rw [List.find?_isSome]
    exact ⟨.sample first.sample, by simp [cut], named⟩
  obtain ⟨line, found⟩ := Option.isSome_iff_exists.1 some_sample
  obtain ⟨is_sample, before, after, rfl, earlier⟩ := List.find?_eq_some_iff_append.1 found
  have fresh : ∀ line ∈ before, line.isSampleOf f.name = false := by simpa using earlier
  cases line with
  | sample s =>
    obtain same : s.name = f.name := eq_of_beq is_sample
    refine ⟨before, s, after, rfl, same, fresh, ?_⟩
    rw [← same] at fresh mine ⊢
    obtain ⟨others', first_filed⟩ := filter_filings_of_first fresh after
    rw [first_filed] at mine
    rw [kind, ← (List.cons.inj mine).1]
  | _ => cases is_sample

/-- A family is of the kind that its name has at its first sample. Its values are all of this kind
exactly when the name has it at all samples of the family. -/
theorem parse_kinds (body : String) :
    let lines := (Text.lines body).map Line.ofChars
    ∀ f ∈ (Exposition.parse body).families,
      (∃ before s after, lines = before ++ .sample s :: after ∧ s.name = f.name ∧
        (∀ line ∈ before, line.isSampleOf f.name = false) ∧ f.kind = kindAfter before f.name) ∧
      ((∀ s ∈ f.series, ∃ x, s.value = .ofKind f.kind x) ↔
        ∀ before s after, lines = before ++ .sample s :: after → s.name = f.name →
          kindAfter before f.name = f.kind) := by
  intro lines f hf
  rw [parse_eq] at hf
  obtain ⟨first, others, mine, _, series⟩ := mem_gather hf
  refine ⟨kind_of_mem_gather hf, ?_⟩
  rw [series, ← mine]
  constructor
  · intro agree before s after cut same
    have filed : (⟨s, kindAfter before s.name⟩ : Filing) ∈
        (filings lines).filter (·.name == f.name) := by
      refine List.mem_filter.2 ⟨mem_filings.2 ⟨before, after, cut, rfl⟩, ?_⟩
      simpa [Filing.name] using same
    obtain ⟨x, value⟩ := agree _ (List.mem_map_of_mem filed)
    rw [← same]
    exact Value.kind_eq_of_ofKind_eq value
  · intro agree s hs
    obtain ⟨entry, filed, rfl⟩ := List.mem_map.1 hs
    obtain ⟨filed, same⟩ := List.mem_filter.1 filed
    obtain ⟨before, after, cut, kinds⟩ := mem_filings.1 filed
    have same : entry.name = f.name := eq_of_beq same
    refine ⟨entry.sample.number, ?_⟩
    rw [Filing.series, kinds, same, agree before entry.sample after cut same]

theorem parse_kinds_repeated :
    let body := "# TYPE a counter\na 1\n# TYPE a counter\na 2\n"
    let f : Family := ⟨"a", .counter, [⟨∅, .counter (.ofInt 1)⟩, ⟨∅, .counter (.ofInt 2)⟩]⟩
    let lines := (Text.lines body).map Line.ofChars
    f ∈ (Exposition.parse body).families ∧
      (∀ s ∈ f.series, ∃ x, s.value = .ofKind f.kind x) ∧
      ∀ before s after, lines = before ++ .sample s :: after → s.name = f.name →
        kindAfter before f.name = f.kind := by
  intro body f lines
  have inside : f ∈ (Exposition.parse body).families := by decide +kernel
  have agree : ∀ s ∈ f.series, ∃ x, s.value = .ofKind f.kind x := by
    simp only [f, List.forall_mem_cons, Value.ofKind]
    exact ⟨⟨_, rfl⟩, ⟨_, rfl⟩, fun _ h => nomatch h⟩
  exact ⟨inside, agree, ((parse_kinds body f inside).2).1 agree⟩

/-- A kind that is declared behind the first sample of its name. -/
theorem parse_kinds_late :
    ¬ ∀ f ∈ (Exposition.parse "a 1\n# TYPE a counter\na 2\n").families,
      ∀ s ∈ f.series, ∃ x, s.value = .ofKind f.kind x := by
  have read : (Exposition.parse "a 1\n# TYPE a counter\na 2\n").families =
      [⟨"a", .untyped, [⟨∅, .untyped (.ofInt 1)⟩, ⟨∅, .counter (.ofInt 2)⟩]⟩] := by decide +kernel
  rw [read]
  intro agree
  obtain ⟨x, value⟩ := agree _ List.mem_cons_self ⟨∅, .counter (.ofInt 2)⟩ (by simp)
  cases value

end Exposition
end KubeEntities
