/-! Maps keyed by text, held as entry lists in strictly increasing key order. The order is the
order of code points, and it is the order in which every listing of the program comes out.
`upsert` is the only operation that adds a key; `find?_upsert` says what it does to every look-up,
and `ext_find?` that the look-ups determine the map. -/

namespace KubeEntities

universe u v

structure SortedMap (α : Type u) where
  entries : List (String × α)
  sorted : entries.Pairwise (fun a b => a.1 < b.1)
deriving DecidableEq

namespace SortedMap
variable {α : Type u} {β : Type v}

protected def empty : SortedMap α := ⟨[], .nil⟩

instance : EmptyCollection (SortedMap α) := ⟨SortedMap.empty⟩
instance : Inhabited (SortedMap α) := ⟨SortedMap.empty⟩

def find? (m : SortedMap α) (key : String) : Option α := m.entries.lookup key

def contains (m : SortedMap α) (key : String) : Bool := (m.find? key).isSome

def keys (m : SortedMap α) : List String := m.entries.map (·.1)

def values (m : SortedMap α) : List α := m.entries.map (·.2)

def toList (m : SortedMap α) : List (String × α) := m.entries

def size (m : SortedMap α) : Nat := m.entries.length

def isEmpty (m : SortedMap α) : Bool := m.entries.isEmpty

/-- Puts `f none` under an absent key, at its place in the order, and `f (some v)` in place of `v`. -/
def put (key : String) (f : Option α → α) : List (String × α) → List (String × α)
  | [] => [(key, f none)]
  | (k, v) :: rest =>
    if key < k then (key, f none) :: (k, v) :: rest
    else if key = k then (k, f (some v)) :: rest
    else (k, v) :: put key f rest

theorem key_of_mem_put {key : String} {f : Option α → α} {a : String × α}
    {l : List (String × α)} (h : a ∈ put key f l) : a.1 = key ∨ ∃ b ∈ l, b.1 = a.1 := by
  induction l with
  | nil => simp [put] at h; simp [h]
  | cons hd tl ih =>
    obtain ⟨k, v⟩ := hd
    rw [put] at h
    split at h
    · rcases List.mem_cons.1 h with rfl | h
      · exact .inl rfl
      · exact .inr ⟨a, h, rfl⟩
    · split at h
      · rename_i eq
        rcases List.mem_cons.1 h with rfl | h
        · exact .inl eq.symm
        · exact .inr ⟨a, List.mem_cons_of_mem _ h, rfl⟩
      · rcases List.mem_cons.1 h with rfl | h
        · exact .inr ⟨_, List.mem_cons_self, rfl⟩
        · rcases ih h with h | ⟨b, hb, h⟩
          · exact .inl h
          · exact .inr ⟨b, List.mem_cons_of_mem _ hb, h⟩

theorem lt_of_not_lt_of_ne {a b : String} (h : ¬ a < b) (ne : a ≠ b) : b < a :=
  Decidable.byContradiction fun h' =>
    ne (String.le_antisymm (String.not_lt.1 h') (String.not_lt.1 h))

theorem pairwise_put (key : String) (f : Option α → α) {l : List (String × α)}
    (h : l.Pairwise (fun a b => a.1 < b.1)) : (put key f l).Pairwise (fun a b => a.1 < b.1) := by
  induction l with
  | nil => simp [put]
  | cons hd tl ih =>
    obtain ⟨k, v⟩ := hd
    have ⟨first, rest⟩ := List.pairwise_cons.1 h
    rw [put]
    split
    · rename_i lt
      refine List.pairwise_cons.2 ⟨fun a ha => ?_, h⟩
      rcases List.mem_cons.1 ha with rfl | ha
      · exact lt
      · exact String.lt_trans lt (first a ha)
    · split
      · exact List.pairwise_cons.2 ⟨first, rest⟩
      · rename_i nlt ne
        refine List.pairwise_cons.2 ⟨fun a ha => ?_, ih rest⟩
        rcases key_of_mem_put ha with eq | ⟨b, hb, eq⟩
        · exact eq ▸ lt_of_not_lt_of_ne nlt ne
        · exact eq ▸ first b hb

/-- Changes or creates the value under `key`; `f` sees the value that was there, if any. -/
def upsert (m : SortedMap α) (key : String) (f : Option α → α) : SortedMap α :=
  ⟨put key f m.entries, pairwise_put key f m.sorted⟩

def insert (m : SortedMap α) (key : String) (value : α) : SortedMap α :=
  m.upsert key fun _ => value

/-- A key listed twice keeps its last value. -/
def ofList (l : List (String × α)) : SortedMap α :=
  l.foldl (fun m e => m.insert e.1 e.2) ∅

def singleton (key : String) (value : α) : SortedMap α := ⟨[(key, value)], by simp⟩

def map (m : SortedMap α) (f : String → α → β) : SortedMap β :=
  ⟨m.entries.map fun e => (e.1, f e.1 e.2), by
    rw [List.pairwise_map]; exact m.sorted⟩

def filter (m : SortedMap α) (keep : String → α → Bool) : SortedMap α :=
  ⟨m.entries.filter fun e => keep e.1 e.2, m.sorted.filter _⟩

@[simp] theorem find?_empty (key : String) : (∅ : SortedMap α).find? key = none := rfl

theorem lookup_eq_none_of_lt {key : String} {l : List (String × α)}
    (h : ∀ a ∈ l, key < a.1) : l.lookup key = none := by
  induction l with
  | nil => rfl
  | cons hd tl ih =>
    have ne : (key == hd.1) = false := by
      rw [beq_eq_false_iff_ne]
      exact fun eq => String.lt_irrefl _ (eq ▸ h hd List.mem_cons_self)
    rw [List.lookup_cons, ne]
    exact ih fun a ha => h a (List.mem_cons_of_mem _ ha)

theorem lookup_cons_eq (key : String) (value : α) (other : String) (l : List (String × α)) :
    ((key, value) :: l).lookup other = if other = key then some value else l.lookup other := by
  by_cases eq : other = key
  · simp [eq]
  · have : (other == key) = false := by simpa using eq
    simp [List.lookup_cons, this, eq]

theorem lookup_put (key other : String) (f : Option α → α) {l : List (String × α)}
    (h : l.Pairwise (fun a b => a.1 < b.1)) :
    (put key f l).lookup other =
      if other = key then some (f (l.lookup key)) else l.lookup other := by
  induction l with
  | nil => exact lookup_cons_eq key (f none) other []
  | cons hd tl ih =>
    obtain ⟨k, v⟩ := hd
    have ⟨first, rest⟩ := List.pairwise_cons.1 h
    rw [put]
    split
    · rename_i lt
      have absent : List.lookup key ((k, v) :: tl) = none := lookup_eq_none_of_lt fun a ha => by
        rcases List.mem_cons.1 ha with rfl | ha
        · exact lt
        · exact String.lt_trans lt (first a ha)
      rw [absent, lookup_cons_eq]
    · split
      · rename_i eq
        subst eq
        by_cases eq : other = key <;> simp [lookup_cons_eq, eq]
      · rename_i ne
        by_cases eq : other = key
        · subst eq
          simp [lookup_cons_eq, ne, ih rest]
        · simp only [lookup_cons_eq, ih rest, if_neg eq]

theorem find?_upsert (m : SortedMap α) (key other : String) (f : Option α → α) :
    (m.upsert key f).find? other = if other = key then some (f (m.find? key)) else m.find? other :=
  lookup_put key other f m.sorted

theorem find?_insert (m : SortedMap α) (key other : String) (value : α) :
    (m.insert key value).find? other = if other = key then some value else m.find? other :=
  find?_upsert m key other _

theorem lookup_eq_some_iff {key : String} {value : α} {l : List (String × α)}
    (h : l.Pairwise (fun a b => a.1 < b.1)) : l.lookup key = some value ↔ (key, value) ∈ l := by
  induction l with
  | nil => simp
  | cons hd tl ih =>
    obtain ⟨k, v⟩ := hd
    have ⟨first, rest⟩ := List.pairwise_cons.1 h
    rw [lookup_cons_eq, List.mem_cons, ← ih rest]
    by_cases eq : key = k
    · subst eq
      have absent : tl.lookup key = none := lookup_eq_none_of_lt first
      simp [absent, eq_comm]
    · simp [eq]

theorem find?_eq_some_iff {m : SortedMap α} {key : String} {value : α} :
    m.find? key = some value ↔ (key, value) ∈ m.entries :=
  lookup_eq_some_iff m.sorted

theorem ext_entries {m n : SortedMap α} (h : m.entries = n.entries) : m = n := by
  cases m; cases n; cases h; rfl

/-- Two maps with the same look-ups are one map. -/
theorem ext_find? {m n : SortedMap α} (h : ∀ key, m.find? key = n.find? key) : m = n := by
  have mem (a : String × α) : a ∈ m.entries ↔ a ∈ n.entries := by
    have := h a.1
    rw [show a = (a.1, a.2) from rfl, ← find?_eq_some_iff, ← find?_eq_some_iff, this]
  have asymm : ∀ a b : String × α, a.1 < b.1 → b.1 < a.1 → a = b :=
    fun _ _ h h' => absurd h' (String.lt_asymm h)
  have nodup {l : List (String × α)} (h : l.Pairwise fun a b => a.1 < b.1) : l.Nodup :=
    List.Pairwise.imp (fun {a b} (lt : a.1 < b.1) (eq : a = b) =>
      String.lt_irrefl b.1 (by rw [eq] at lt; exact lt)) h
  exact ext_entries <| List.Perm.eq_of_pairwise (fun a b _ _ => asymm a b) m.sorted n.sorted <|
    (List.perm_ext_iff_of_nodup (nodup m.sorted) (nodup n.sorted)).2 mem

theorem isEmpty_iff {m : SortedMap α} : m.isEmpty = true ↔ m = ∅ := by
  constructor
  · intro h
    exact ext_entries (List.isEmpty_iff.1 h)
  · rintro rfl
    rfl

end SortedMap
end KubeEntities
