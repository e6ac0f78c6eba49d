import KubeEntities.Exposition
import KubeEntities.Proofs.Exposition.Written

/-! Written families are read back. The lines of one family append exactly this family to those
that were read before (`read_lines`), so reading the lines of all of them gives all of them in order
and no error (`parse_written`). -/

namespace KubeEntities.Exposition

variable {name : String} {kind : Kind} {families : List Family}

def addAll (name : String) (kind : Kind) (series : List Series) (families : List Family) :
    List Family :=
  series.foldl (fun l s => addSeries name kind s l) families

theorem addSeries_of_absent (absent : ∀ f ∈ families, f.name ≠ name) (s : Series) :
    addSeries name kind s families = families ++ [⟨name, kind, [s]⟩] := by
  induction families with
  | nil => rfl
  | cons f families ih =>
    rw [addSeries, if_neg (absent f List.mem_cons_self),
      ih fun g hg => absent g (List.mem_cons_of_mem _ hg), List.cons_append]

theorem addSeries_append (absent : ∀ f ∈ families, f.name ≠ name) (before : List Series)
    (s : Series) :
    addSeries name kind s (families ++ [⟨name, kind, before⟩]) =
      families ++ [⟨name, kind, before ++ [s]⟩] := by
  induction families with
  | nil => simp [addSeries]
  | cons f families ih =>
    rw [List.cons_append, addSeries, if_neg (absent f List.mem_cons_self),
      ih fun g hg => absent g (List.mem_cons_of_mem _ hg), List.cons_append]

theorem addAll_append (absent : ∀ f ∈ families, f.name ≠ name) (before series : List Series) :
    addAll name kind series (families ++ [⟨name, kind, before⟩]) =
      families ++ [⟨name, kind, before ++ series⟩] := by
  induction series generalizing before with
  | nil => rw [addAll, List.foldl_nil, List.append_nil]
  | cons s series ih =>
    rw [addAll, List.foldl_cons, addSeries_append absent]
    exact (ih _).trans (by rw [List.append_assoc, List.singleton_append])

theorem addAll_of_absent (absent : ∀ f ∈ families, f.name ≠ name) {series : List Series}
    (filled : series ≠ []) :
    addAll name kind series families = families ++ [⟨name, kind, series⟩] := by
  obtain ⟨s, series, rfl⟩ := List.exists_cons_of_ne_nil filled
  rw [addAll, List.foldl_cons, addSeries_of_absent absent]
  exact addAll_append absent [s] series

namespace Progress

def read (p : Progress) (number : Nat) (lines : List Line) : Progress :=
  (lines.zipIdx number).foldl Progress.add p

theorem read_cons (p : Progress) (number : Nat) (line : Line) (lines : List Line) :
    p.read number (line :: lines) = (p.add (line, number)).read (number + 1) lines := rfl

theorem read_append (p : Progress) (number : Nat) (lines more : List Line) :
    p.read number (lines ++ more) = (p.read number lines).read (number + lines.length) more := by
  rw [read, List.zipIdx_append, List.foldl_append]
  rfl

theorem read_samples (p : Progress) (number : Nat) (declared : p.kindOf name = kind)
    (samples : List WrittenSample) :
    p.read number (samples.map fun s => .sample ⟨name, s.labels, s.number⟩) =
      { p with families := addAll name kind (samples.map (·.series kind)) p.families } := by
  induction samples generalizing p number with
  | nil => rfl
  | cons s samples ih =>
    have added : p.add (.sample ⟨name, s.labels, s.number⟩, number) =
        { p with families := addSeries name kind (s.series kind) p.families } := by
      rw [← declared]
      rfl
    have kept : { p with
        families := addSeries name kind (s.series kind) p.families }.kindOf name = kind := declared
    rw [List.map_cons, read_cons, added, ih _ _ kept]
    rfl

theorem kindOf_add_declaration (p : Progress) (number : Nat) :
    (p.add (.declaration name kind, number)).kindOf name = kind := by
  simp [add, kindOf, SortedMap.find?_insert]

def addFamily (p : Progress) (f : WrittenFamily) : Progress :=
  { p with
    declared := p.declared.insert f.name f.kind
    families := p.families ++ [f.family] }

end Progress

theorem WrittenFamily.map_ofChars_lines (f : WrittenFamily) :
    f.lines.map Line.ofChars = .declaration f.name f.kind ::
      f.samples.map fun s => .sample ⟨f.name, s.labels, s.number⟩ := by
  rw [WrittenFamily.lines, List.map_cons, ofChars_declarationLine f.named, List.map_map]
  congr 1
  exact List.map_congr_left fun s _ => ofChars_line s f.named

theorem Progress.read_lines (p : Progress) (number : Nat) (f : WrittenFamily)
    (absent : ∀ g ∈ p.families, g.name ≠ f.name) :
    p.read number (f.lines.map Line.ofChars) = p.addFamily f := by
  have filled : f.samples.map (·.series f.kind) ≠ [] := by simpa using f.filled
  rw [f.map_ofChars_lines, read_cons,
    read_samples _ (number + 1) (p.kindOf_add_declaration number) f.samples, add,
    addAll_of_absent absent filled]
  rfl

theorem Progress.read_families (p : Progress) (number : Nat) {written : List WrittenFamily}
    (distinct : (written.map (·.name)).Nodup)
    (absent : ∀ g ∈ p.families, ∀ f ∈ written, g.name ≠ f.name) :
    let after := p.read number ((written.flatMap WrittenFamily.lines).map Line.ofChars)
    after.families = p.families ++ written.map (·.family) ∧ after.errors = p.errors := by
  -- what was read keeps other names than what is still to come
  induction written generalizing p number with
  | nil => exact ⟨(List.append_nil _).symm, rfl⟩
  | cons f written ih =>
    have ⟨alone, rest⟩ := List.nodup_cons.1 distinct
    have first := p.read_lines number f fun g hg => absent g hg f List.mem_cons_self
    have others : ∀ g ∈ (p.addFamily f).families, ∀ h ∈ written, g.name ≠ h.name := by
      intro g hg h hh
      rcases List.mem_append.1 hg with hg | hg
      · exact absent g hg h (List.mem_cons_of_mem _ hh)
      · rw [List.mem_singleton.1 hg]
        exact fun same => alone (List.mem_map.2 ⟨h, hh, same.symm⟩)
    rw [List.flatMap_cons, List.map_append, read_append, first]
    obtain ⟨read, errors⟩ := ih (p.addFamily f) (number + (f.lines.map Line.ofChars).length) rest
      others
    refine ⟨read.trans ?_, errors⟩
    rw [addFamily, List.append_assoc, List.singleton_append, List.map_cons]

theorem lines_written (families : List WrittenFamily) :
    Text.lines (written families) = families.flatMap WrittenFamily.lines ++ [[]] := by
  refine Text.lines_ofList_ended ?_
  intro line listed
  obtain ⟨f, _, listed⟩ := List.mem_flatMap.1 listed
  rcases List.mem_cons.1 listed with rfl | listed
  · exact newline_notMem_declarationLine f.named f.kind
  · obtain ⟨s, _, rfl⟩ := List.mem_map.1 listed
    exact newline_notMem_line s f.named

theorem ofLines_eq_read (lines : List Line) :
    ofLines lines =
      ⟨(Progress.start.read 1 lines).families, (Progress.start.read 1 lines).errors⟩ := rfl

/-- Families of different names are read back from their text, in order, and no line is
refused. -/
theorem parse_written {families : List WrittenFamily} (distinct : (families.map (·.name)).Nodup) :
    Exposition.parse (written families) = ⟨families.map (·.family), []⟩ := by
  obtain ⟨read, errors⟩ := Progress.start.read_families 1 distinct fun g hg => nomatch hg
  rw [Exposition.parse, lines_written, List.map_append, ofLines_eq_read, Progress.read_append]
  exact congr (congrArg Exposition.mk read) errors

theorem parse_written_escapes :
    let quoted : WrittenSample := {
      labels := .ofList [("note", "a\\n\"\n\x7d, b="), ("pod", "é")]
      listed := [("pod", "é"), ("note", "a\\n\"\n\x7d, b=")]
      listed_perm := by decide
      named := by decide
      braced := true
      token := ['1', '2']
      number := .ofInt 12
      unbroken := Text.unbroken_of_all (by decide)
      reads := by decide +kernel
      timestamp := some (-5) }
    let bare : WrittenSample := {
      labels := ∅
      listed := []
      listed_perm := .nil
      named := by decide
      braced := false
      token := ['N', 'a', 'N']
      number := .nan
      unbroken := Text.unbroken_of_all (by decide)
      reads := by decide
      timestamp := none }
    let families : List WrittenFamily := [
      ⟨"kube_pod_labels", .gauge, [quoted, bare], by decide, by decide⟩,
      ⟨"rpc:seconds", .summary, [bare], by decide, by decide⟩]
    (families.map (·.name)).Nodup ∧
      written families = String.join [
        "# TYPE kube_pod_labels gauge\n",
        "kube_pod_labels\x7bpod=\"é\",note=\"a\\\\n\\\"\\n\x7d, b=\"\x7d 12 -5\n",
        "kube_pod_labels NaN\n",
        "# TYPE rpc:seconds summary\n",
        "rpc:seconds NaN\n"] ∧
      Exposition.parse (written families) = ⟨families.map (·.family), []⟩ := by
  intro quoted bare families
  have distinct : (families.map (·.name)).Nodup := by decide
  exact ⟨distinct, by decide +kernel, parse_written distinct⟩

end KubeEntities.Exposition
