import KubeEntities.Proofs.Settings.Table

/-! Layers, key by key. The layers are written in order into one table, and its entries once more as
a layer of their own. Unless the Kelvin sign is in a key, the second writing changes no key, so what
a key holds in the end is told by what the layers write about it (`lookup_merged?`). -/

namespace KubeEntities.Settings

def writesOf (layer : List (String × Json)) : List Write := layer.map fun e => (pathOf e.1, e.2)

theorem writesOf_append (layer layer' : List (String × Json)) :
    writesOf (layer ++ layer') = writesOf layer ++ writesOf layer' := List.map_append

theorem keyed_writesOf (layer : List (String × Json)) : Keyed (writesOf layer) := by
  intro w hw
  obtain ⟨e, -, rfl⟩ := List.mem_map.1 hw
  obtain ⟨name, rest, path, -⟩ := exists_pathOf_eq_cons e.1
  exact ⟨name, rest, path⟩

theorem putLayer?_cons (table : Table) (e : String × Json) (layer : List (String × Json)) :
    putLayer? table (e :: layer) = (putPath? e.2 (some (.obj table)) (pathOf e.1)).bind fun item =>
      putLayer? (tableOf (some item)) layer := by
  change ((putPath? e.2 (some (.obj table)) (pathOf e.1)).map fun item => tableOf (some item)).bind
    (fun table => putLayer? table layer) = _
  cases putPath? e.2 (some (.obj table)) (pathOf e.1) <;> rfl

theorem putLayer?_eq (table : Table) (layer : List (String × Json)) :
    putLayer? table layer = (writeAll? (some (.obj table)) (writesOf layer)).map tableOf := by
  induction layer generalizing table with
  | nil => rfl
  | cons e layer ih =>
    obtain ⟨name, rest, path, -⟩ := exists_pathOf_eq_cons e.1
    have same : write? e.2 (some (.obj table)) (pathOf e.1) =
        putPath? e.2 (some (.obj table)) (pathOf e.1) := by
      rw [path]
      rfl
    rw [putLayer?_cons, writesOf, List.map_cons, writeAll?, List.foldlM_cons, same]
    cases written : putPath? e.2 (some (.obj table)) (pathOf e.1) with
    | none => rfl
    | some item =>
      obtain ⟨table', rfl⟩ := exists_table_of_putPath? (path ▸ written)
      exact ih table'

theorem putLayer?_append (table : Table) (layer layer' : List (String × Json)) :
    putLayer? table (layer ++ layer') =
      (putLayer? table layer).bind fun table => putLayer? table layer' := by
  rw [putLayer?, List.foldlM_append]
  rfl

theorem foldlM_putLayer? (table : Table) (layers : List (List (String × Json))) :
    layers.foldlM putLayer? table = putLayer? table layers.flatten := by
  induction layers generalizing table with
  | nil => rfl
  | cons layer layers ih =>
    rw [List.foldlM_cons, List.flatten_cons, putLayer?_append]
    exact bind_congr fun table => ih table

/-- What the entries of some layers, in this order, leave under a key; none if a write about it
fails. -/
def held? (entries : List (String × Json)) (key : String) : Option (Option Json) :=
  writeAll? none (inside key (writesOf entries))

/-- No key is written with the Kelvin sign. -/
def Plain (layer : List (String × Json)) : Prop := ∀ e ∈ layer, kelvin ∉ e.1.toList

instance (layer : List (String × Json)) : Decidable (Plain layer) :=
  inferInstanceAs (Decidable (∀ e ∈ layer, kelvin ∉ e.1.toList))

theorem lookup_putLayer? {layer : List (String × Json)} {table : Table}
    (h : putLayer? [] layer = some table) :
    Tidy table ∧ ∀ key, held? layer key = some (table.lookup key) := by
  rw [putLayer?_eq] at h
  obtain ⟨result, done, rfl⟩ := Option.map_eq_some_iff.1 h
  exact @lookup_writeAll? _ (keyed_writesOf layer) (some (.obj [])) _ Tidy.nil done

theorem pathOf_of_mem {layer : List (String × Json)} (plain : Plain layer) {table : Table}
    (h : putLayer? [] layer = some table) {e : String × Json} (he : e ∈ table) :
    pathOf e.1 = [.key e.1] := by
  obtain ⟨tidy, held⟩ := lookup_putLayer? h
  have there : table.lookup e.1 = some e.2 := (SortedMap.lookup_eq_some_iff tidy.sorted).2 he
  have written := held e.1
  rw [there, held?] at written
  cases about : inside e.1 (writesOf layer) with
  | nil =>
    rw [about] at written
    cases written
  | cons w others =>
    obtain ⟨name, same, there⟩ := exists_of_mem_inside (about ▸ List.mem_cons_self : w ∈ _)
    obtain ⟨e', he', made⟩ := List.mem_map.1 there
    rw [← same]
    exact pathOf_lower_first (plain e' he') (congrArg Prod.fst made)

theorem putLayer?_names {entries table : Table} (names : ∀ e ∈ entries, pathOf e.1 = [.key e.1]) :
    putLayer? table entries = some (entries.foldl (fun table m => put m.1 table m.2) table) := by
  induction entries generalizing table with
  | nil => rfl
  | cons e entries ih =>
    obtain ⟨first, others⟩ := List.forall_mem_cons.1 names
    rw [putLayer?_cons, first]
    exact ih others

/-- The second writing rewrites each table on its own. -/
theorem merged?_eq {layers : List (List (String × Json))} (plain : Plain layers.flatten) :
    merged? layers = (putLayer? [] layers.flatten).map fun table =>
      tableOf (some (rewritten (.obj table))) := by
  rw [merged?, foldlM_putLayer?]
  cases written : putLayer? [] layers.flatten with
  | none => rfl
  | some table =>
    have again := @putLayer?_names table [] fun e he => pathOf_of_mem plain written he
    rw [Option.bind_some, again, Option.map_some]
    exact congrArg some (tableOf_putMembers (.obj []) table).symm

theorem lookup_merged? {layers : List (List (String × Json))} (plain : Plain layers.flatten)
    {table : Table} (h : merged? layers = some table) (key : String) :
    ∃ held, held? layers.flatten key = some held ∧ table.lookup key = held.map rewritten := by
  rw [merged?_eq plain] at h
  obtain ⟨first, written, rfl⟩ := Option.map_eq_some_iff.1 h
  obtain ⟨tidy, held⟩ := lookup_putLayer? written
  exact ⟨_, held key, @lookup_tableOf_map_rewritten (some (.obj first)) tidy key⟩

theorem isSome_merged? {layers : List (List (String × Json))} (plain : Plain layers.flatten)
    (each : ∀ key, (held? layers.flatten key).isSome) : (merged? layers).isSome := by
  rw [merged?_eq plain, Option.isSome_map, putLayer?_eq, Option.isSome_map]
  exact @isSome_writeAll? _ (keyed_writesOf _) (some (.obj [])) Tidy.nil each

theorem putLayer?_eq_some_iff {start : Table} {layer : List (String × Json)} {table : Table} :
    putLayer? start layer = some table ↔
      writeAll? (some (.obj start)) (writesOf layer) = some (some (.obj table)) := by
  rw [putLayer?_eq, Option.map_eq_some_iff]
  constructor
  · rintro ⟨result, done, rfl⟩
    cases layer with
    | nil =>
      cases done
      rfl
    | cons e layer =>
      obtain ⟨table, rfl⟩ := exists_table_of_keyed (keyed_writesOf (e :: layer)) nofun done
      exact done
  · intro done
    exact ⟨_, done, rfl⟩

theorem tidyAlong_of_putLayer? {names : List String} (short : names.length ≤ 2)
    {layer : List (String × Json)} {table : Table} (h : putLayer? [] layer = some table) :
    TidyAlong names (some (.obj table)) := by
  obtain ⟨tidy, held⟩ := lookup_putLayer? h
  match names, short with
  | [], _ => trivial
  | [_], _ => exact ⟨tidy, trivial⟩
  | [first, _], _ => exact ⟨tidy, @tidy_writeAll? _ none _ Tidy.nil (held first), trivial⟩

theorem merged?_insert {names : List String} (short : names.length ≤ 2)
    (low : ∀ name ∈ names, lower name = name) {key : String} (path : pathOf key = names.map .key)
    {value : Json} (noTable : ∀ members, value ≠ .obj members)
    {layer before after : List (String × Json)}
    (plain : Plain (layer ++ (before ++ (key, value) :: after)))
    (apart : ∀ e ∈ before ++ after, Apart names (pathOf e.1)) {base : Table}
    (h : merged? [layer, before ++ after] = some base) :
    ∃ table, merged? [layer, before ++ (key, value) :: after] = some table ∧
      Replaced names value (some (.obj base)) (some (.obj table)) := by
  have flat (upper : List (String × Json)) : [layer, upper].flatten = layer ++ upper := by simp
  have plain' : Plain (layer ++ (before ++ after)) := fun e he => plain e <| by
    simp only [List.mem_append, List.mem_cons] at he ⊢
    rcases he with he | he | he <;> simp [he]
  rw [merged?_eq (flat _ ▸ plain'), flat] at h
  obtain ⟨first, written, rfl⟩ := Option.map_eq_some_iff.1 h
  obtain ⟨middle, below, above⟩ :=
    Option.bind_eq_some_iff.1 ((putLayer?_append ..).symm.trans written)
  rw [putLayer?_eq_some_iff, writesOf_append] at above
  have apart' : ∀ w ∈ writesOf before ++ writesOf after, Apart names w.1 := by
    rw [← writesOf_append]
    exact List.forall_mem_map.2 apart
  obtain ⟨result, done, replaced⟩ := writeAll?_insert low noTable apart'
    (tidyAlong_of_putLayer? short below) above
  have same : writesOf (before ++ (key, value) :: after) =
      writesOf before ++ (names.map .key, value) :: writesOf after := by
    rw [writesOf_append, ← path]
    rfl
  rw [← same] at done
  obtain ⟨second, rfl⟩ := exists_table_of_keyed (keyed_writesOf _) (by simp [same]) done
  have written' : putLayer? [] (layer ++ (before ++ (key, value) :: after)) = some second := by
    rw [putLayer?_append, below]
    exact putLayer?_eq_some_iff.2 done
  refine ⟨tableOf (some (rewritten (.obj second))), ?_, ?_⟩
  · rw [merged?_eq (flat _ ▸ plain), flat, written']
    rfl
  · have all := replaced.rewritten noTable (tidyAlong_of_putLayer? short written)
      (tidyAlong_of_putLayer? short written')
    rwa [Option.map_some, Option.map_some, rewritten_obj first, rewritten_obj second] at all

end KubeEntities.Settings
