import KubeEntities.Text.Blank

/-! Cutting text that was put together from words. Lines that were ended come back as lines, words
with blanks between them as fields, and trimming changes nothing between two words. -/

namespace KubeEntities.Text

theorem splitAt_of_not_isSeparator {isSeparator : Char → Bool} {piece : List Char}
    (h : ∀ c ∈ piece, isSeparator c = false) : splitAt isSeparator piece = [piece] := by
  induction piece with
  | nil => rfl
  | cons c piece ih =>
    rw [splitAt, h c List.mem_cons_self, ih fun d hd => h d (List.mem_cons_of_mem _ hd)]
    rfl

theorem splitAt_append_cons {isSeparator : Char → Bool} {piece : List Char}
    (h : ∀ c ∈ piece, isSeparator c = false) {c : Char} (hc : isSeparator c = true)
    (rest : List Char) :
    splitAt isSeparator (piece ++ c :: rest) = piece :: splitAt isSeparator rest := by
  induction piece with
  | nil => simp [splitAt, hc]
  | cons d piece ih =>
    rw [List.cons_append, splitAt, h d List.mem_cons_self,
      ih fun d hd => h d (List.mem_cons_of_mem _ hd)]
    rfl

theorem lines_ofList_ended {ls : List (List Char)} (h : ∀ l ∈ ls, '\n' ∉ l) :
    lines (String.ofList (ls.flatMap (· ++ ['\n']))) = ls ++ [[]] := by
  rw [lines, String.toList_ofList]
  induction ls with
  | nil => rfl
  | cons l ls ih =>
    have plain : ∀ c ∈ l, (c == '\n') = false := by
      intro c hc
      rw [beq_eq_false_iff_ne]
      rintro rfl
      exact h l List.mem_cons_self hc
    rw [List.flatMap_cons, List.append_assoc, List.singleton_append,
      splitAt_append_cons plain (by decide), ih fun l hl => h l (List.mem_cons_of_mem _ hl),
      List.cons_append]

theorem isBlank_eq_false_of_visible {c : Char} (low : 0x20 < c.toNat) (high : c.toNat < 0x80) :
    isBlank c = false := by
  simp only [isBlank, Bool.or_eq_false_iff, Bool.and_eq_false_iff, decide_eq_false_iff_not,
    beq_eq_false_iff_ne]
  omega

theorem unbroken_of_all {chars : List Char} (h : (chars.all fun c => !isBlank c) = true) :
    ∀ c ∈ chars, isBlank c = false := by simpa using h

theorem run_unique {inRun : Char → Bool} {run run' rest rest' : List Char} {c c' : Char}
    (h : ∀ d ∈ run, inRun d = true) (h' : ∀ d ∈ run', inRun d = true)
    (hc : inRun c = false) (hc' : inRun c' = false) (same : run ++ c :: rest = run' ++ c' :: rest') :
    run = run' ∧ c = c' ∧ rest = rest' := by
  have runs := congrArg (List.takeWhile inRun) same
  rw [List.takeWhile_append_of_pos h, List.takeWhile_append_of_pos h'] at runs
  simp only [List.takeWhile_cons, hc, hc', Bool.false_eq_true, if_false, List.append_nil] at runs
  subst runs
  exact ⟨rfl, List.cons.inj (List.append_cancel_left same)⟩

structure IsWord (chars : List Char) : Prop where
  nonempty : chars ≠ []
  unbroken : ∀ c ∈ chars, isBlank c = false

theorem IsWord.newline_notMem {word : List Char} (h : IsWord word) : '\n' ∉ word :=
  fun inside => absurd (h.unbroken '\n' inside) (by decide)

theorem fields_blank_cons {c : Char} (hc : isBlank c = true) (rest : List Char) :
    fields (c :: rest) = fields rest := by
  simp [fields, splitAt, hc]

theorem IsWord.fields {word : List Char} (h : IsWord word) : fields word = [word] := by
  simp [Text.fields, splitAt_of_not_isSeparator h.unbroken, h.nonempty]

theorem IsWord.fields_append {word : List Char} (h : IsWord word) {c : Char}
    (hc : isBlank c = true) (rest : List Char) :
    Text.fields (word ++ c :: rest) = word :: Text.fields rest := by
  simp [Text.fields, splitAt_append_cons h.unbroken hc, h.nonempty]

theorem IsWord.trimStart_append {word : List Char} (h : IsWord word) (rest : List Char) :
    trimStart (word ++ rest) = word ++ rest := by
  obtain ⟨c, word, rfl⟩ := List.exists_cons_of_ne_nil h.nonempty
  simp [trimStart, h.unbroken c List.mem_cons_self]

theorem IsWord.reverse {word : List Char} (h : IsWord word) : IsWord word.reverse where
  nonempty := by simpa using h.nonempty
  unbroken c hc := h.unbroken c (List.mem_reverse.1 hc)

theorem IsWord.trimEnd_append {word : List Char} (h : IsWord word) (before : List Char) :
    trimEnd (before ++ word) = before ++ word := by
  have same := h.reverse.trimStart_append before.reverse
  rw [trimStart, ← List.reverse_append] at same
  rw [trimEnd, same, List.reverse_reverse]

theorem IsWord.trim {word : List Char} (h : IsWord word) : trim word = word := by
  have start := h.trimStart_append []
  have ending := h.trimEnd_append []
  rw [List.append_nil] at start
  rw [Text.trim, start]
  exact ending

theorem IsWord.trim_append {first last : List Char} (h : IsWord first) (h' : IsWord last)
    (middle : List Char) : Text.trim (first ++ (middle ++ last)) = first ++ (middle ++ last) := by
  rw [Text.trim, h.trimStart_append, ← List.append_assoc, h'.trimEnd_append]

end KubeEntities.Text
