import KubeEntities.Exposition
import Mathlib.Data.List.Induction

/-! How samples come to be families. What a family holds is decided by the samples of its name
alone (`filter_gather`, `gather_named`), and families come in the order of the first samples of their
names (`names_gather`). -/

namespace KubeEntities.Exposition

/-- A sample, and the kind that its name has at its line. -/
structure Filing where
  sample : Sample
  kind : Kind

namespace Filing

def name (entry : Filing) : String := entry.sample.name

def series (entry : Filing) : Series := ⟨entry.sample.labels, .ofKind entry.kind entry.sample.number⟩

end Filing

def fileInto (families : List Family) (entry : Filing) : List Family :=
  addSeries entry.name entry.kind entry.series families

def gather (filings : List Filing) : List Family := filings.foldl fileInto []

section
variable {filings : List Filing} {families : List Family} {entry : Filing} {name : String}

theorem gather_concat (filings : List Filing) (entry : Filing) :
    gather (filings ++ [entry]) = fileInto (gather filings) entry := by
  rw [gather, List.foldl_append]
  rfl

theorem names_fileInto (families : List Family) (entry : Filing) :
    (fileInto families entry).map (·.name) =
      if entry.name ∈ families.map (·.name) then families.map (·.name)
      else families.map (·.name) ++ [entry.name] := by
  unfold fileInto
  induction families with
  | nil => simp [addSeries]
  | cons f families ih =>
    rw [addSeries]
    by_cases same : f.name = entry.name
    · simp [same]
    · rw [if_neg same, List.map_cons, ih]
      by_cases inside : entry.name ∈ families.map (·.name)
      · simp [inside]
      · simp [inside, Ne.symm same]

theorem names_gather (filings : List Filing) :
    (gather filings).map (·.name) = (filings.map (·.name)).eraseDups := by
  induction filings using List.reverseRecOn with
  | nil => rfl
  | append_singleton filings entry ih =>
    rw [gather_concat, names_fileInto, ih, List.map_append, List.eraseDups_append]
    generalize filings.map (·.name) = names
    by_cases known : entry.name ∈ names
    · simp [known, List.removeAll]
    · simp [known, List.removeAll, List.eraseDups_cons]

theorem nodup_names_gather (filings : List Filing) : ((gather filings).map (·.name)).Nodup := by
  induction filings using List.reverseRecOn with
  | nil => exact List.nodup_nil
  | append_singleton filings entry ih =>
    rw [gather_concat, names_fileInto]
    split
    · exact ih
    · rename_i fresh
      refine List.nodup_append.2 ⟨ih, by simp, ?_⟩
      rintro a ha b hb rfl
      exact fresh (List.mem_singleton.1 hb ▸ ha)

theorem filter_fileInto (families : List Family) (entry : Filing) (name : String) :
    (fileInto families entry).filter (·.name == name) =
      if entry.name = name then fileInto (families.filter (·.name == name)) entry
      else families.filter (·.name == name) := by
  unfold fileInto
  induction families with
  | nil => by_cases named : entry.name = name <;> simp [addSeries, named]
  | cons f families ih =>
    rw [addSeries]
    by_cases same : f.name = entry.name
    · by_cases named : entry.name = name <;> simp [addSeries, same, named]
    · rw [if_neg same]
      by_cases kept : f.name = name
      · have other : entry.name ≠ name := fun named => same (kept.trans named.symm)
        simp [kept, other, ih]
      · simp [kept, ih]

theorem filter_gather (filings : List Filing) (name : String) :
    (gather filings).filter (·.name == name) = gather (filings.filter (·.name == name)) := by
  induction filings using List.reverseRecOn with
  | nil => rfl
  | append_singleton filings entry ih =>
    rw [gather_concat, filter_fileInto, ih, List.filter_append]
    by_cases named : entry.name = name
    · simp [named, gather_concat]
    · simp [named]

theorem gather_named (named : ∀ entry ∈ filings, entry.name = name) :
    gather filings =
      (filings.head?.map fun first => ⟨name, first.kind, filings.map (·.series)⟩).toList := by
  induction filings using List.reverseRecOn with
  | nil => rfl
  | append_singleton filings entry ih =>
    have others := ih fun e he => named e (List.mem_append_left _ he)
    have last : entry.name = name := named entry (by simp)
    rw [gather_concat, others]
    cases filings with
    | nil => simp [fileInto, addSeries, last]
    | cons first filings => simp [fileInto, addSeries, last]

theorem mem_gather {f : Family} (h : f ∈ gather filings) :
    ∃ first others, filings.filter (·.name == f.name) = first :: others ∧
      f.kind = first.kind ∧ f.series = (first :: others).map (·.series) := by
  have inside : f ∈ (gather filings).filter (·.name == f.name) := by simp [h]
  have named : ∀ entry ∈ filings.filter (·.name == f.name), entry.name = f.name := fun entry he =>
    eq_of_beq (List.mem_filter.1 he).2
  rw [filter_gather, gather_named named] at inside
  cases mine : filings.filter (·.name == f.name) with
  | nil => simp [mine] at inside
  | cons first others =>
    rw [mine] at inside
    have only := List.mem_singleton.1 inside
    exact ⟨first, others, rfl, congrArg Family.kind only, congrArg Family.series only⟩

end
end KubeEntities.Exposition
