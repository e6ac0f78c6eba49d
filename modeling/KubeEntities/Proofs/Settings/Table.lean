import KubeEntities.Proofs.Settings.Path
import KubeEntities.Proofs.SortedMap
import Mathlib.Data.List.DropRight
import Mathlib.Data.List.Induction

/-! Writing into tables, seen from one key. What a key of a table holds after some writes is told by
the writes about this key alone (`lookup_writeAll?`), and they all succeed if they do key by key
(`isSome_writeAll?`). This holds of the whole table of settings as of a table in it. -/

namespace KubeEntities.Settings

/-- Keys in order, each once and in lower case. -/
structure Tidy (table : Table) : Prop where
  sorted : table.Pairwise (fun a b => a.1 < b.1)
  lower : ∀ e ∈ table, lower e.1 = e.1

theorem Tidy.nil : Tidy [] := ⟨.nil, nofun⟩

theorem Tidy.upsert {table : Table} (h : Tidy table) (key : String) (f : Option Json → Json) :
    Tidy (SortedMap.put (Settings.lower key) f table) := by
  refine ⟨SortedMap.pairwise_put _ f h.sorted, fun e he => ?_⟩
  rcases SortedMap.key_of_mem_put he with same | ⟨b, hb, same⟩
  · rw [same, lower_lower]
  · rw [← same, h.lower b hb]

def putValue (old : Option Json) : Json → Json
  | .obj members => putMembers (old.getD (.obj [])) members
  | value => value

theorem put_eq (key : String) (table : Table) (value : Json) :
    put key table value = SortedMap.put (lower key) (fun old => putValue old value) table := by
  cases value with
  | obj members =>
    rw [put]
    rfl
  | scalar s => rfl
  | arr items => rfl

theorem lookup_put {table : Table} (h : Tidy table) (key other : String) (value : Json) :
    (put key table value).lookup other =
      if other = lower key then some (putValue (table.lookup (lower key)) value)
      else table.lookup other := by
  rw [put_eq, SortedMap.lookup_put _ _ _ h.sorted]

theorem tableOf_putMembers (old : Json) (members : Table) :
    tableOf (some (putMembers old members)) =
      members.foldl (fun table m => put m.1 table m.2) (tableOf (some old)) := by
  induction members generalizing old with
  | nil => rfl
  | cons m members ih =>
    rw [putMembers, ih]
    rfl

theorem putMembers_obj (table members : Table) :
    putMembers (.obj table) members = .obj (tableOf (some (putMembers (.obj table) members))) := by
  induction members generalizing table with
  | nil => rfl
  | cons m members ih =>
    rw [putMembers]
    exact ih _

theorem Tidy.write {table : Table} (h : Tidy table) (key : String) (value : Json) :
    Tidy (put key table value) := by
  rw [put_eq]
  exact h.upsert key _

theorem lookup_foldl_put {members : Table} (members_tidy : Tidy members) {table : Table}
    (h : Tidy table) (key : String) :
    Tidy (members.foldl (fun table m => put m.1 table m.2) table) ∧
      (members.foldl (fun table m => put m.1 table m.2) table).lookup key =
        ((members.lookup key).map (putValue (table.lookup key))).or (table.lookup key) := by
  induction members generalizing table with
  | nil => exact ⟨h, rfl⟩
  | cons m members ih =>
    obtain ⟨name, value⟩ := m
    obtain ⟨first, sorted⟩ := List.pairwise_cons.1 members_tidy.sorted
    obtain ⟨low, lowers⟩ := List.forall_mem_cons.1 members_tidy.lower
    obtain ⟨tidy, held⟩ := ih ⟨sorted, lowers⟩ (h.write name value)
    refine ⟨tidy, held.trans ?_⟩
    rw [lookup_put h, low, SortedMap.lookup_cons_eq]
    by_cases same : key = name
    · subst same
      have absent : members.lookup key = none := SortedMap.lookup_eq_none_of_lt first
      simp [absent]
    · simp [same]

def rewritten (value : Json) : Json := putValue none value

theorem rewritten_obj (table : Table) :
    rewritten (.obj table) = .obj (tableOf (some (rewritten (.obj table)))) :=
  putMembers_obj [] table

theorem lookup_rewritten {table : Table} (h : Tidy table) (key : String) :
    ∃ table', rewritten (.obj table) = .obj table' ∧
      table'.lookup key = (table.lookup key).map rewritten := by
  refine ⟨_, rewritten_obj table, ?_⟩
  rw [rewritten, putValue, Option.getD_none, tableOf_putMembers]
  exact (lookup_foldl_put h Tidy.nil key).2.trans Option.or_none

theorem lookup_tableOf_map_rewritten {value : Option Json} (h : Tidy (tableOf value))
    (key : String) : (tableOf (value.map rewritten)).lookup key =
      ((tableOf value).lookup key).map rewritten := by
  cases value with
  | none => rfl
  | some value =>
    cases value with
    | scalar s => rfl
    | arr items => rfl
    | obj members =>
      obtain ⟨members', same, held⟩ := lookup_rewritten (show Tidy members from h) key
      rw [Option.map_some, same]
      exact held

/-- A value and the way to where it goes. -/
abbrev Write := List Step × Json

def write? (value : Json) (old : Option Json) : List Step → Option Json
  | [] => some (putValue old value)
  | step :: rest => putPath? value old (step :: rest)

theorem putPath?_key {old : Option Json} (h : Tidy (tableOf old)) (value : Json) (name : String)
    (rest : List Step) : putPath? value old (.key name :: rest) =
      (write? value ((tableOf old).lookup (lower name)) rest).map fun item =>
        .obj (SortedMap.put (lower name) (fun _ => item) (tableOf old)) := by
  cases rest with
  | nil =>
    rw [putPath?, write?, Option.map_some, put_eq, SortedMap.put_eq_put_const _ h.sorted]
  | cons step rest =>
    rw [putPath?, write?]
    · cases putPath? value ((tableOf old).lookup (lower name)) (step :: rest) <;> rfl
    · exact nofun

/-- The outcome at one place; none if a write fails. -/
def writeAll? (old : Option Json) (writes : List Write) : Option (Option Json) :=
  writes.foldlM (fun old w => (write? w.2 old w.1).map some) old

def under? (key : String) : Write → Option Write
  | (.key name :: rest, value) => if lower name = key then some (rest, value) else none
  | _ => none

def inside (key : String) (writes : List Write) : List Write := writes.filterMap (under? key)

theorem inside_append (key : String) (writes writes' : List Write) :
    inside key (writes ++ writes') = inside key writes ++ inside key writes' :=
  List.filterMap_append

theorem inside_cons (key : String) (w : Write) (writes : List Write) :
    inside key (w :: writes) = inside key [w] ++ inside key writes :=
  inside_append key [w] writes

theorem inside_singleton (key name : String) (rest : List Step) (value : Json) :
    inside key [(.key name :: rest, value)] = if lower name = key then [(rest, value)] else [] := by
  by_cases same : lower name = key <;> simp [inside, under?, same]

theorem exists_of_mem_inside {key : String} {writes : List Write} {w : Write}
    (h : w ∈ inside key writes) :
    ∃ name, lower name = key ∧ (.key name :: w.1, w.2) ∈ writes := by
  obtain ⟨⟨path, value⟩, there, under⟩ := List.mem_filterMap.1 h
  cases path with
  | nil => cases under
  | cons step rest =>
    cases step with
    | index i => cases under
    | key name =>
      rw [under?] at under
      split at under
      · rename_i same
        cases under
        exact ⟨name, same, there⟩
      · cases under

theorem writeAll?_append (old : Option Json) (writes writes' : List Write) :
    writeAll? old (writes ++ writes') =
      (writeAll? old writes).bind fun middle => writeAll? middle writes' := by
  rw [writeAll?, List.foldlM_append]
  rfl

theorem writeAll?_concat {old result : Option Json} {writes : List Write} {w : Write}
    (done : writeAll? old (writes ++ [w]) = some result) : ∃ middle item,
      writeAll? old writes = some middle ∧ write? w.2 middle w.1 = some item ∧
        result = some item := by
  rw [writeAll?_append] at done
  obtain ⟨middle, before, last⟩ := Option.bind_eq_some_iff.1 done
  rw [writeAll?, List.foldlM_cons] at last
  obtain ⟨_, stored, last⟩ := Option.bind_eq_some_iff.1 last
  obtain ⟨item, written, rfl⟩ := Option.map_eq_some_iff.1 stored
  exact ⟨middle, item, before, written, (Option.some.inj last).symm⟩

theorem putPath?_inside {old : Option Json} (h : Tidy (tableOf old)) {value item : Json}
    {name : String} {rest : List Step} (done : putPath? value old (.key name :: rest) = some item) :
    Tidy (tableOf (some item)) ∧ ∀ key,
      writeAll? ((tableOf old).lookup key) (inside key [(.key name :: rest, value)]) =
        some ((tableOf (some item)).lookup key) := by
  rw [putPath?_key h] at done
  obtain ⟨inner, written, rfl⟩ := Option.map_eq_some_iff.1 done
  refine ⟨h.upsert name _, fun key => ?_⟩
  rw [inside_singleton, tableOf, SortedMap.lookup_put _ _ _ h.sorted]
  by_cases same : lower name = key
  · subst same
    simp [writeAll?, written]
  · simp [writeAll?, same, Ne.symm same]

def Keyed (writes : List Write) : Prop := ∀ w ∈ writes, ∃ name rest, w.1 = .key name :: rest

instance : (path : List Step) → Decidable (∃ name rest, path = .key name :: rest)
  | [] => .isFalse nofun
  | .key name :: rest => .isTrue ⟨name, rest, rfl⟩
  | .index _ :: _ => .isFalse nofun

instance (writes : List Write) : Decidable (Keyed writes) :=
  inferInstanceAs (Decidable (∀ w ∈ writes, ∃ name rest, w.1 = .key name :: rest))

theorem lookup_writeAll? {writes : List Write} (keyed : Keyed writes) {old result : Option Json}
    (h : Tidy (tableOf old)) (done : writeAll? old writes = some result) :
    Tidy (tableOf result) ∧ ∀ key, writeAll? ((tableOf old).lookup key) (inside key writes) =
      some ((tableOf result).lookup key) := by
  induction writes generalizing old with
  | nil =>
    cases done
    exact ⟨h, fun key => rfl⟩
  | cons w writes ih =>
    obtain ⟨path, value⟩ := w
    obtain ⟨⟨name, rest, rfl⟩, others⟩ := List.forall_mem_cons.1 keyed
    rw [writeAll?, List.foldlM_cons] at done
    obtain ⟨_, first, done⟩ := Option.bind_eq_some_iff.1 done
    obtain ⟨item, written, rfl⟩ := Option.map_eq_some_iff.1 first
    obtain ⟨tidy, here⟩ := putPath?_inside h written
    obtain ⟨tidy', there⟩ := ih others tidy done
    refine ⟨tidy', fun key => ?_⟩
    rw [inside_cons, writeAll?_append, here key]
    exact there key

theorem isSome_writeAll? {writes : List Write} (keyed : Keyed writes) {old : Option Json}
    (h : Tidy (tableOf old))
    (each : ∀ key, (writeAll? ((tableOf old).lookup key) (inside key writes)).isSome) :
    (writeAll? old writes).isSome := by
  induction writes generalizing old with
  | nil => rfl
  | cons w writes ih =>
    obtain ⟨path, value⟩ := w
    obtain ⟨⟨name, rest, rfl⟩, others⟩ := List.forall_mem_cons.1 keyed
    have here := each (lower name)
    rw [inside_cons, inside_singleton, if_pos rfl, writeAll?_append] at here
    obtain ⟨item, written⟩ : ∃ item, putPath? value old (.key name :: rest) = some item := by
      rw [putPath?_key h]
      cases inner : write? value ((tableOf old).lookup (lower name)) rest with
      | none => simp [writeAll?, inner] at here
      | some inner => exact ⟨_, rfl⟩
    obtain ⟨tidy, held⟩ := putPath?_inside h written
    have later : (writeAll? (some item) writes).isSome := by
      refine ih others tidy fun key => ?_
      have all := each key
      rwa [inside_cons, writeAll?_append, held key] at all
    have first : write? value old (.key name :: rest) = some item := written
    rwa [writeAll?, List.foldlM_cons, first]

theorem Tidy.putMembers {old : Json} (h : Tidy (tableOf (some old))) (members : Table) :
    Tidy (tableOf (some (putMembers old members))) := by
  rw [tableOf_putMembers]
  generalize tableOf (some old) = table at h
  induction members generalizing table with
  | nil => exact h
  | cons m members ih => exact ih _ (h.write m.1 m.2)

theorem exists_table_of_putPath? {value item : Json} {old : Option Json} {name : String}
    {rest : List Step} (h : putPath? value old (.key name :: rest) = some item) :
    ∃ table, item = .obj table := by
  cases rest with
  | nil =>
    rw [putPath?] at h
    exact ⟨_, (Option.some.inj h).symm⟩
  | cons step rest =>
    rw [putPath?] at h
    · obtain ⟨_, -, same⟩ := Option.bind_eq_some_iff.1 h
      exact ⟨_, (Option.some.inj same).symm⟩
    · exact nofun

theorem exists_list_of_putPath? {value item : Json} {old : Option Json} {i : Int}
    {rest : List Step} (h : putPath? value old (.index i :: rest) = some item) :
    ∃ items, item = .arr items := by
  rw [putPath?] at h
  obtain ⟨position, -, h⟩ := Option.bind_eq_some_iff.1 h
  obtain ⟨_, -, same⟩ := Option.bind_eq_some_iff.1 h
  exact ⟨_, (Option.some.inj same).symm⟩

theorem exists_table_of_keyed {writes : List Write} (keyed : Keyed writes) (some : writes ≠ [])
    {old result : Option Json} (done : writeAll? old writes = .some result) :
    ∃ table, result = .some (.obj table) := by
  obtain ⟨before, w, rfl⟩ := (List.eq_nil_or_concat writes).resolve_left some
  rw [List.concat_eq_append] at keyed done
  obtain ⟨middle, item, -, written, rfl⟩ := writeAll?_concat done
  obtain ⟨name, rest, path⟩ := keyed w (List.mem_append_right _ List.mem_cons_self)
  rw [path] at written
  obtain ⟨table, rfl⟩ := exists_table_of_putPath? written
  exact ⟨table, rfl⟩

theorem tidy_writeAll? {writes : List Write} {old result : Option Json} (h : Tidy (tableOf old))
    (done : writeAll? old writes = some result) : Tidy (tableOf result) := by
  induction writes using List.reverseRecOn generalizing result with
  | nil =>
    cases done
    exact h
  | append_singleton writes w ih =>
    obtain ⟨middle, item, before, written, rfl⟩ := writeAll?_concat done
    obtain ⟨path, value⟩ := w
    have tidy := ih before
    cases path with
    | nil =>
      cases written
      cases value with
      | obj members =>
        refine Tidy.putMembers ?_ members
        cases middle with
        | none => exact Tidy.nil
        | some old => exact tidy
      | scalar s => exact Tidy.nil
      | arr items => exact Tidy.nil
    | cons step rest =>
      cases step with
      | key name => exact (putPath?_inside tidy written).1
      | index i =>
        obtain ⟨items, rfl⟩ := exists_list_of_putPath? written
        exact Tidy.nil

/-- The last value that is written as a whole. -/
def lastWhole? (writes : List Write) : Option Json :=
  (writes.filter (·.1.isEmpty)).getLast?.map (·.2)

/-- No write is of a table. -/
def Flat (writes : List Write) : Prop := ∀ w ∈ writes, ∀ members, w.2 ≠ .obj members

theorem Flat.inside {writes : List Write} (flat : Flat writes) (name : String) :
    Flat (inside name writes) := by
  intro w hw
  obtain ⟨first, -, there⟩ := exists_of_mem_inside hw
  exact flat (.key first :: w.1, w.2) there

def isPosition : Write → Bool
  | (.index _ :: _, _) => true
  | _ => false

/-- The writes to positions of a list that no other write follows. -/
def lastPositions (writes : List Write) : List Write := writes.rtakeWhile isPosition

theorem putValue_of_not_table {value : Json} (h : ∀ members, value ≠ .obj members)
    (old : Option Json) : putValue old value = value := by
  cases value with
  | obj members => exact absurd rfl (h members)
  | scalar s => rfl
  | arr items => rfl

theorem rewritten_of_not_table {value : Json} (h : ∀ members, value ≠ .obj members) :
    rewritten value = value := putValue_of_not_table h none

/-- A list or a scalar that comes out of some writes is the last one that was written as a whole,
or else was there before. A list might also have been changed at a position. -/
theorem eq_lastWhole?_or {writes : List Write} (flat : Flat writes) {old result : Option Json}
    (done : writeAll? old writes = some result) (noTable : ∀ table, result ≠ some (.obj table))
    (direct : (∀ items, result ≠ some (.arr items)) ∨ lastPositions writes = []) :
    result = (lastWhole? writes).or old := by
  rcases List.eq_nil_or_concat writes with rfl | ⟨before, w, rfl⟩
  · cases done
    rfl
  rw [List.concat_eq_append] at *
  obtain ⟨path, value⟩ := w
  have last : (path, value) ∈ before ++ [(path, value)] := by simp
  obtain ⟨middle, item, -, written, rfl⟩ := writeAll?_concat done
  cases path with
  | nil =>
    rw [write?, putValue_of_not_table (flat _ last)] at written
    cases written
    simp [lastWhole?]
  | cons step rest =>
    cases step with
    | key name =>
      obtain ⟨table, rfl⟩ := exists_table_of_putPath? written
      exact absurd rfl (noTable table)
    | index i =>
      obtain ⟨items, rfl⟩ := exists_list_of_putPath? written
      rcases direct with noList | direct
      · exact absurd rfl (noList items)
      · rw [lastPositions, List.rtakeWhile_concat_pos _ _ _ (by rfl)] at direct
        exact absurd direct (List.append_ne_nil_of_right_ne_nil _ (List.cons_ne_nil _ _))

/-- The way parts from these names before their end. -/
def Apart : List String → List Step → Prop
  | name :: names, .key other :: rest => lower other = name → Apart names rest
  | _, _ => False

instance decidableApart : (names : List String) → (path : List Step) → Decidable (Apart names path)
  | name :: names, .key other :: rest =>
    let _ := decidableApart names rest
    inferInstanceAs (Decidable (lower other = name → Apart names rest))
  | [], _ | _ :: _, [] | _ :: _, .index _ :: _ => isFalse id

theorem keyed_of_apart {names : List String} {writes : List Write}
    (apart : ∀ w ∈ writes, Apart names w.1) : Keyed writes := by
  intro w hw
  have there := apart w hw
  revert there
  cases names with
  | nil => exact False.elim
  | cons name names =>
    cases w.1 with
    | nil => exact False.elim
    | cons step rest =>
      cases step with
      | index i => exact False.elim
      | key other => exact fun _ => ⟨other, rest, rfl⟩

theorem apart_inside {name : String} {names : List String} {writes : List Write}
    (apart : ∀ w ∈ writes, Apart (name :: names) w.1) :
    ∀ w ∈ inside name writes, Apart names w.1 := by
  intro w hw
  obtain ⟨other, same, there⟩ := exists_of_mem_inside hw
  exact apart _ there same

/-- Only what is at the end of these names is replaced. -/
def Replaced : List String → Json → Option Json → Option Json → Prop
  | [], value, _, result => result = some value
  | name :: names, value, base, result => (∃ t, result = some (.obj t)) ∧
    (∀ key, key ≠ name → (tableOf result).lookup key = (tableOf base).lookup key) ∧
    Replaced names value ((tableOf base).lookup name) ((tableOf result).lookup name)

def TidyAlong : List String → Option Json → Prop
  | [], _ => True
  | name :: names, old => Tidy (tableOf old) ∧ TidyAlong names ((tableOf old).lookup name)

theorem writeAll?_insert {names : List String} (low : ∀ name ∈ names, lower name = name)
    {value : Json} (noTable : ∀ members, value ≠ .obj members) {before after : List Write}
    (apart : ∀ w ∈ before ++ after, Apart names w.1) {old base : Option Json}
    (h : TidyAlong names old) (done : writeAll? old (before ++ after) = some base) :
    ∃ result, writeAll? old (before ++ (names.map .key, value) :: after) = some result ∧
      Replaced names value base result := by
  induction names generalizing before after old base with
  | nil =>
    have none : before ++ after = [] := List.eq_nil_iff_forall_not_mem.2 fun w hw => apart w hw
    obtain ⟨rfl, rfl⟩ := List.append_eq_nil_iff.1 none
    exact ⟨_, rfl, congrArg some (putValue_of_not_table noTable old)⟩
  | cons name names ih =>
    obtain ⟨here, others⟩ := List.forall_mem_cons.1 low
    obtain ⟨tidy, along⟩ := h
    have each := (lookup_writeAll? (keyed_of_apart apart) tidy done).2
    have inner := each name
    have apart' := apart_inside apart
    rw [inside_append] at inner apart'
    obtain ⟨item, written, replaced⟩ := ih others apart' along inner
    have keyed : Keyed (before ++ (.key name :: names.map .key, value) :: after) := by
      intro w hw
      rcases List.mem_append.1 hw with hw | hw
      · exact keyed_of_apart apart w (List.mem_append_left _ hw)
      · rcases List.mem_cons.1 hw with rfl | hw
        · exact ⟨_, _, rfl⟩
        · exact keyed_of_apart apart w (List.mem_append_right _ hw)
    have place (key : String) :
        inside key (before ++ (.key name :: names.map .key, value) :: after) =
          if key = name then inside name before ++ (names.map .key, value) :: inside name after
          else inside key (before ++ after) := by
      rw [inside_append, inside_cons, inside_singleton, here]
      by_cases same : key = name
      · subst same
        rw [if_pos rfl, if_pos rfl, List.singleton_append]
      · rw [if_neg (Ne.symm same), if_neg same, List.nil_append, inside_append]
    have some :
        (writeAll? old (before ++ (.key name :: names.map .key, value) :: after)).isSome := by
      refine isSome_writeAll? keyed tidy fun key => ?_
      rw [place]
      split
      · rename_i same
        rw [same, written]
        rfl
      · rw [each key]
        rfl
    obtain ⟨result, done'⟩ := Option.isSome_iff_exists.1 some
    have each' := (lookup_writeAll? keyed tidy done').2
    refine ⟨result, done', ?_, fun key other => ?_, ?_⟩
    · exact exists_table_of_keyed keyed (List.append_ne_nil_of_right_ne_nil _ nofun) done'
    · have held := each' key
      rw [place, if_neg other, each key] at held
      exact (Option.some.inj held).symm
    · have held := each' name
      rw [place, if_pos rfl, written] at held
      rwa [← Option.some.inj held]

theorem Replaced.rewritten {names : List String} {value : Json}
    (noTable : ∀ members, value ≠ .obj members) {base result : Option Json}
    (along : TidyAlong names base) (along' : TidyAlong names result)
    (h : Replaced names value base result) :
    Replaced names value (base.map rewritten) (result.map rewritten) := by
  induction names generalizing base result with
  | nil =>
    rw [show result = some value from h]
    exact congrArg some (rewritten_of_not_table noTable)
  | cons name names ih =>
    obtain ⟨tidy, along⟩ := along
    obtain ⟨tidy', along'⟩ := along'
    obtain ⟨⟨t, rfl⟩, others, here⟩ := h
    refine ⟨⟨_, congrArg some (rewritten_obj t)⟩, fun key other => ?_, ?_⟩
    · rw [lookup_tableOf_map_rewritten tidy, lookup_tableOf_map_rewritten tidy', others key other]
    · rw [lookup_tableOf_map_rewritten tidy, lookup_tableOf_map_rewritten tidy']
      exact ih along along' here

end KubeEntities.Settings
