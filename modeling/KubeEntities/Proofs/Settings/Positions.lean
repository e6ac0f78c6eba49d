import KubeEntities.Proofs.Settings.Table
import KubeEntities.Settings

/-! Writing to positions of a list, seen from one of its items. What stands there after some writes
is told by the writes to this position alone (`getElem?_writeAll?`), each of which is found from the
length that the list has when its turn comes. From this a list of texts is read item by item
(`ListedAs.of_writeAll?`). -/

namespace KubeEntities.Settings

/-- Where a position is in a list of this length. Negative ones count from the end. -/
def offset (position : Int) (length : Nat) : Nat :=
  (if position < 0 then length + position else position).toNat

/-- Writes to positions of a list of this length, as they look from the item at one of them. -/
def atPosition (here : Nat) : Nat → List Write → List Write
  | length, (.index i :: rest, value) :: writes =>
    let others := atPosition here (max length (offset i length + 1)) writes
    if offset i length = here then (rest, value) :: others else others
  | length, _ :: writes => atPosition here length writes
  | _, [] => []

/-- The list that the last writes to positions find. A table in its place counts as an empty one. -/
def itemsBefore (old : Option Json) (writes : List Write) : List Json :=
  match (writes.rdropWhile isPosition).getLast? with
  | none => listOf old
  | some ([], value) => listOf (some value)
  | some _ => []

def isName : Write → Bool
  | (.key _ :: _, _) => true
  | _ => false

/-- The writes to keys of a table that no other write follows. -/
def lastNames (writes : List Write) : List Write := writes.rtakeWhile isName

def tableBefore (old : Option Json) (writes : List Write) : Table :=
  match (writes.rdropWhile isName).getLast? with
  | none => tableOf old
  | some _ => []

/-- An item as the writes to it find it. It may have been made already, to fill a gap. -/
def Found (items : List Json) (here : Nat) (start : Option Json) : Prop :=
  start = items[here]? ∨ items[here]? = none ∧ start = some .null

namespace Found
variable {items items' : List Json} {here : Nat} {start : Option Json}

theorem eq_of_getElem? (h : Found items here start) {item : Json}
    (there : items[here]? = some item) : start = some item := by
  rcases h with rfl | ⟨none, -⟩
  · exact there
  · rw [there] at none
    cases none

theorem trans (h : Found items here items'[here]?) (h' : Found items' here start) :
    Found items here start := by
  rcases h' with rfl | ⟨none, null⟩
  · exact h
  rcases h with same | ⟨-, null'⟩
  · exact .inr ⟨same ▸ none, null⟩
  · rw [none] at null'
    cases null'

end Found

theorem eq_of_absolute? {i : Int} {length position : Nat}
    (h : absolute? i length = some position) : offset i length = position :=
  Option.some.inj (Option.ite_none_right_eq_some.1 h).2

theorem length_putItem (position : Nat) (item : Json) (items : List Json) :
    (putItem position item items).length = max items.length (position + 1) := by
  rw [putItem]
  split
  · rw [List.length_set]
    omega
  · simp only [List.length_append, List.length_replicate, List.length_singleton]
    omega

theorem getElem?_putItem_self (position : Nat) (item : Json) (items : List Json) :
    (putItem position item items)[position]? = some item := by
  rw [putItem]
  split
  · rename_i inside
    rw [List.getElem?_set_self inside]
  · have whole : (items ++ List.replicate (position - items.length) Json.null).length =
        position := by
      rw [List.length_append, List.length_replicate]
      omega
    rw [List.getElem?_append_right whole.le, whole, Nat.sub_self]
    rfl

theorem found_putItem {position here : Nat} (other : here ≠ position) (item : Json)
    (items : List Json) : Found items here (putItem position item items)[here]? := by
  rw [putItem]
  split
  · exact .inl (List.getElem?_set_ne other.symm)
  · rcases Nat.lt_or_ge here items.length with inside | beyond
    · left
      rw [List.append_assoc, List.getElem?_append_left inside]
    · have none : items[here]? = none := List.getElem?_eq_none beyond
      rw [Found, List.append_assoc, List.getElem?_append_right beyond, none]
      rcases Nat.lt_or_ge here position with gap | after
      · right
        refine ⟨rfl, ?_⟩
        rw [List.getElem?_append_left (by rw [List.length_replicate]; omega),
          List.getElem?_replicate_of_lt (by omega)]
      · left
        refine List.getElem?_eq_none ?_
        simp only [List.length_append, List.length_replicate, List.length_singleton]
        omega

theorem putPath?_index {value item : Json} (noTable : ∀ members, value ≠ .obj members)
    {old : Option Json} {i : Int} {rest : List Step}
    (done : putPath? value old (.index i :: rest) = some item) :
    let position := offset i (listOf old).length
    ∃ items inner, item = .arr items ∧ items.length = max (listOf old).length (position + 1) ∧
      write? value (listOf old)[position]? rest = some inner ∧ items[position]? = some inner ∧
      ∀ here ≠ position, Found (listOf old) here items[here]? := by
  rw [putPath?] at done
  obtain ⟨position, resolved, done⟩ := Option.bind_eq_some_iff.1 done
  obtain ⟨inner, written, done⟩ := Option.bind_eq_some_iff.1 done
  cases done
  have same : offset i (listOf old).length = position := eq_of_absolute? resolved
  have inner_eq : write? value (listOf old)[position]? rest = some inner := by
    cases rest with
    | nil =>
      rw [putPath?] at written
      rwa [write?, putValue_of_not_table noTable]
    | cons step rest => exact written
  rw [same]
  exact ⟨_, inner, rfl, length_putItem .., inner_eq, getElem?_putItem_self ..,
    fun here other => found_putItem other ..⟩

theorem exists_of_mem_atPosition {here length : Nat} {writes : List Write} {w : Write}
    (h : w ∈ atPosition here length writes) : ∃ path, (path, w.2) ∈ writes := by
  fun_induction atPosition here length writes with
  | case1 length i rest value writes others same ih =>
    rcases List.mem_cons.1 h with rfl | h
    · exact ⟨_, List.mem_cons_self⟩
    · exact (ih h).imp fun _ => List.mem_cons_of_mem _
  | case2 length i rest value writes others same ih =>
    exact (ih h).imp fun _ => List.mem_cons_of_mem _
  | case3 length w' writes other ih => exact (ih h).imp fun _ => List.mem_cons_of_mem _
  | case4 => cases h

theorem Flat.lastWrites {writes : List Write} (flat : Flat writes) (kind : Write → Bool) :
    Flat (writes.rtakeWhile kind) :=
  fun w hw => flat w ((List.rtakeWhile_suffix kind writes).mem hw)

theorem Flat.atPosition {writes : List Write} (flat : Flat writes) (here length : Nat) :
    Flat (atPosition here length writes) := by
  intro w hw
  obtain ⟨path, there⟩ := exists_of_mem_atPosition hw
  exact flat (path, w.2) there

theorem getElem?_writeAll? {writes : List Write} (flat : Flat writes)
    (placed : ∀ w ∈ writes, isPosition w = true) {old result : Option Json}
    (done : writeAll? old writes = some result) (here : Nat) :
    ∃ start, Found (listOf old) here start ∧
      writeAll? start (atPosition here (listOf old).length writes) =
        some (listOf result)[here]? := by
  induction writes generalizing old with
  | nil =>
    cases done
    exact ⟨_, .inl rfl, rfl⟩
  | cons w writes ih =>
    obtain ⟨path, value⟩ := w
    obtain ⟨noTable, flats⟩ := List.forall_mem_cons.1 flat
    obtain ⟨first, others⟩ := List.forall_mem_cons.1 placed
    match path with
    | .index i :: rest =>
      rw [writeAll?, List.foldlM_cons] at done
      obtain ⟨_, stored, done⟩ := Option.bind_eq_some_iff.1 done
      obtain ⟨item, written, rfl⟩ := Option.map_eq_some_iff.1 stored
      obtain ⟨items, inner, rfl, length, write, set, kept⟩ := putPath?_index noTable written
      obtain ⟨start, found, later⟩ := ih flats others done
      rw [show listOf (some (.arr items)) = items from rfl] at found later
      rw [length] at later
      rw [atPosition]
      by_cases same : offset i (listOf old).length = here
      · subst same
        refine ⟨_, .inl rfl, ?_⟩
        rw [found.eq_of_getElem? set] at later
        rw [if_pos rfl, writeAll?, List.foldlM_cons, write]
        exact later
      · rw [if_neg same]
        exact ⟨start, (kept here (Ne.symm same)).trans found, later⟩

theorem cases_of_rdropWhile {kind : Write → Bool} {writes : List Write} {old middle : Option Json}
    (done : writeAll? old (writes.rdropWhile kind) = some middle) :
    (writes.rdropWhile kind).getLast? = none ∧ middle = old ∨ ∃ w ∈ writes, kind w ≠ true ∧
      (writes.rdropWhile kind).getLast? = some w ∧
        ∃ earlier item, write? w.2 earlier w.1 = some item ∧ middle = some item := by
  rcases List.eq_nil_or_concat (writes.rdropWhile kind) with nothing | ⟨before, w, last⟩
  · rw [nothing] at done ⊢
    cases done
    exact .inl ⟨rfl, rfl⟩
  rw [List.concat_eq_append] at last
  have there : w ∈ writes := (List.rdropWhile_prefix kind writes).mem
    (last ▸ List.mem_append_right _ List.mem_cons_self)
  have other : kind w ≠ true := by
    have stops := List.rdropWhile_last_not kind writes
    simpa [last] using stops
  rw [last] at done ⊢
  obtain ⟨earlier, item, -, written, rfl⟩ := writeAll?_concat done
  refine .inr ⟨w, there, other, ?_, earlier, item, written, rfl⟩
  rw [List.getLast?_append, List.getLast?_singleton, Option.some_or]

theorem listOf_eq_itemsBefore {writes : List Write} (flat : Flat writes) {old middle : Option Json}
    (done : writeAll? old (writes.rdropWhile isPosition) = some middle) :
    listOf middle = itemsBefore old writes := by
  rw [itemsBefore]
  obtain ⟨nothing, rfl⟩ | ⟨⟨path, value⟩, there, other, last, _, item, written, rfl⟩ :=
    cases_of_rdropWhile done
  · rw [nothing]
  rw [last]
  match path with
  | [] =>
    rw [write?, putValue_of_not_table (flat _ there)] at written
    cases written
    rfl
  | .key name :: rest =>
    obtain ⟨table, rfl⟩ := exists_table_of_putPath? written
    rfl
  | .index i :: rest => exact absurd rfl other

theorem tableOf_eq_tableBefore {writes : List Write} (flat : Flat writes) {old middle : Option Json}
    (done : writeAll? old (writes.rdropWhile isName) = some middle) :
    tableOf middle = tableBefore old writes := by
  rw [tableBefore]
  obtain ⟨nothing, rfl⟩ | ⟨⟨path, value⟩, there, other, last, _, item, written, rfl⟩ :=
    cases_of_rdropWhile done
  · rw [nothing]
  rw [last]
  match path with
  | [] =>
    rw [write?, putValue_of_not_table (flat _ there)] at written
    cases written
    cases value with
    | obj members => exact absurd rfl (flat _ there members)
    | arr items => rfl
    | scalar s => rfl
  | .key name :: rest => exact absurd rfl other
  | .index i :: rest =>
    obtain ⟨items, rfl⟩ := exists_list_of_putPath? written
    rfl

theorem map_text?_of_texts? {items : List Json} {l : List String}
    (h : texts? (.arr items) = some l) : items.map text? = l.map some := by
  change items.mapM text? = some l at h
  induction items generalizing l with
  | nil =>
    cases h
    rfl
  | cons item items ih =>
    rw [List.mapM_cons] at h
    obtain ⟨text, first, h⟩ := Option.bind_eq_some_iff.1 h
    obtain ⟨others, rest, h⟩ := Option.bind_eq_some_iff.1 h
    cases h
    rw [List.map_cons, first, ih rest]
    rfl

theorem getElem?_of_texts? {items : List Json} {l : List String}
    (h : texts? (.arr items) = some l) (here : Nat) :
    items[here]?.map text? = l[here]?.map some := by
  rw [← List.getElem?_map, ← List.getElem?_map, map_text?_of_texts? h]

theorem eq_bind_of_writeAll? {writes : List Write} (flat : Flat writes) {items : List Json}
    {here : Nat} {start item : Option Json} (found : Found items here start)
    (done : writeAll? start writes = some item) {text : Option String}
    (read : item.map text? = text.map some) :
    text = ((lastWhole? writes).or items[here]?).bind text? := by
  have text_eq : text = item.bind text? := by
    cases item <;> cases text <;> simp_all
  have noTable (table : Table) : item ≠ some (.obj table) := by
    rintro rfl
    cases text <;> cases read
  have noList (items : List Json) : item ≠ some (.arr items) := by
    rintro rfl
    cases text <;> cases read
  have item_eq := eq_lastWhole?_or flat done noTable (.inl noList)
  rcases found with rfl | ⟨none, rfl⟩
  · rw [text_eq, item_eq]
  · rw [text_eq, item_eq, none]
    cases whole : lastWhole? writes with
    | some value => rfl
    | none =>
      rw [item_eq, whole] at read
      cases text <;> cases read

/-- A list of texts that comes out of some writes. Without a write to a position at the end, it is
the last one that was written as a whole, or else was there before, or is the default. With such
writes each item is the last one that was written to its position as a whole, or else was there
before. -/
structure ListedAs (default : List String) (old : Option Json) (writes : List Write)
    (l : List String) : Prop where
  whole : lastPositions writes = [] →
    orDefault default texts? ((lastWhole? writes).or old) = some l
  items : lastPositions writes ≠ [] → ∀ here,
    let before := itemsBefore old writes
    l[here]? = ((lastWhole? (atPosition here before.length (lastPositions writes))).or
      before[here]?).bind text?

theorem last_cases {writes : List Write} (some : writes ≠ []) :
    (∃ before value, writes = before ++ [([], value)]) ∨ lastNames writes ≠ [] ∨
      lastPositions writes ≠ [] := by
  obtain ⟨before, ⟨path, value⟩, rfl⟩ := (List.eq_nil_or_concat writes).resolve_left some
  rw [List.concat_eq_append]
  cases path with
  | nil => exact .inl ⟨before, value, rfl⟩
  | cons step rest =>
    right
    cases step with
    | key name =>
      left
      rw [lastNames, List.rtakeWhile_concat_pos _ _ _ (by rfl)]
      exact List.append_ne_nil_of_right_ne_nil _ (List.cons_ne_nil _ _)
    | index i =>
      right
      rw [lastPositions, List.rtakeWhile_concat_pos _ _ _ (by rfl)]
      exact List.append_ne_nil_of_right_ne_nil _ (List.cons_ne_nil _ _)

theorem exists_items_of_lastPositions {writes : List Write} (some : lastPositions writes ≠ [])
    {old held : Option Json} (done : writeAll? old writes = .some held) :
    ∃ items, held = .some (.arr items) := by
  rcases List.eq_nil_or_concat writes with rfl | ⟨before, w, rfl⟩
  · exact absurd rfl some
  rw [List.concat_eq_append] at done some
  obtain ⟨_, item, -, written, rfl⟩ := writeAll?_concat done
  have last : isPosition w = true := by
    by_contra other
    exact some (List.rtakeWhile_concat_neg isPosition before w other)
  obtain ⟨path, value⟩ := w
  match path with
  | [] => cases last
  | .key name :: rest => cases last
  | .index i :: rest =>
    obtain ⟨items, rfl⟩ := exists_list_of_putPath? written
    exact ⟨items, rfl⟩

theorem exists_item_of_lastPositions {writes : List Write} (flat : Flat writes)
    (some : lastPositions writes ≠ []) {old held : Option Json}
    (done : writeAll? old writes = .some held) (here : Nat) :
    let before := itemsBefore old writes
    ∃ items start, held = .some (.arr items) ∧ Found before here start ∧
      writeAll? start (atPosition here before.length (lastPositions writes)) =
        .some items[here]? := by
  intro before
  obtain ⟨items, rfl⟩ := exists_items_of_lastPositions some done
  have split : writes.rdropWhile isPosition ++ lastPositions writes = writes :=
    List.rdropWhile_append_rtakeWhile
  rw [← split, writeAll?_append] at done
  obtain ⟨middle, first, last⟩ := Option.bind_eq_some_iff.1 done
  obtain ⟨start, found, stored⟩ := getElem?_writeAll? (flat.lastWrites isPosition)
    (fun w => List.mem_rtakeWhile_imp) last here
  rw [listOf_eq_itemsBefore flat first] at found stored
  exact ⟨items, start, rfl, found, stored⟩

theorem ListedAs.of_writeAll? {writes : List Write} (flat : Flat writes) {old held : Option Json}
    (done : writeAll? old writes = some held) {default l : List String}
    (read : orDefault default texts? held = some l) : ListedAs default old writes l := by
  constructor
  · intro unplaced
    have noTable (table : Table) : held ≠ some (.obj table) := by
      rintro rfl
      cases read
    rwa [← eq_lastWhole?_or flat done noTable (.inr unplaced)]
  · intro placed here before
    obtain ⟨items, start, rfl, found, stored⟩ :=
      exists_item_of_lastPositions flat placed done here
    exact eq_bind_of_writeAll? ((flat.lastWrites isPosition).atPosition here _) found stored
      (getElem?_of_texts? read here)

theorem texts?_rewritten (j : Json) : texts? (rewritten j) = texts? j := by
  cases j with
  | obj members =>
    rw [rewritten_obj]
    rfl
  | arr items => rfl
  | scalar s => rfl

theorem listOf_map_rewritten (old : Option Json) : listOf (old.map rewritten) = listOf old := by
  cases old with
  | none => rfl
  | some j =>
    cases j with
    | obj members =>
      rw [Option.map_some, rewritten_obj]
      rfl
    | arr items => rfl
    | scalar s => rfl

theorem itemsBefore_map_rewritten (old : Option Json) (writes : List Write) :
    itemsBefore (old.map rewritten) writes = itemsBefore old writes := by
  rw [itemsBefore, listOf_map_rewritten]
  rfl

theorem orDefault_texts?_map_rewritten (default : List String) (held : Option Json) :
    orDefault default texts? (held.map rewritten) = orDefault default texts? held := by
  cases held with
  | none => rfl
  | some j => exact texts?_rewritten j

namespace ListedAs
variable {default l : List String} {old : Option Json} {writes : List Write}

theorem map_rewritten (h : ListedAs default old writes l) :
    ListedAs default (old.map rewritten) writes l := by
  constructor
  · intro unplaced
    rw [← h.whole unplaced]
    cases lastWhole? writes with
    | none => exact orDefault_texts?_map_rewritten default old
    | some value => rfl
  · rw [itemsBefore_map_rewritten]
    exact h.items

theorem of_null (h : ListedAs default (some .null) writes l) : ListedAs default none writes l := by
  constructor
  · intro unplaced
    have read := h.whole unplaced
    cases whole : lastWhole? writes with
    | some value => rwa [whole] at read
    | none =>
      rw [whole] at read
      cases read
  · exact h.items

theorem of_found {items : List Json} {here : Nat} {start : Option Json}
    (h : ListedAs default start writes l) (found : Found items here start) :
    ListedAs default items[here]? writes l := by
  rcases found with rfl | ⟨none, rfl⟩
  · exact h
  · rw [none]
    exact h.of_null

end ListedAs

/-- A list of texts that is found under its name in a table or at its position in a list, by what
the last writes go to. -/
structure ListedIn (old : Option Json) (writes : List Write) (name : String) (position : Nat)
    (l : List String) : Prop where
  named : lastNames writes ≠ [] →
    ListedAs [] ((tableBefore old writes).lookup name) (inside name (lastNames writes)) l
  placed : lastPositions writes ≠ [] →
    let before := itemsBefore old writes
    ListedAs [] before[position]? (atPosition position before.length (lastPositions writes)) l

theorem keyed_lastNames (writes : List Write) : Keyed (lastNames writes) := by
  intro w hw
  have named : isName w = true := List.mem_rtakeWhile_imp hw
  obtain ⟨path, value⟩ := w
  match path with
  | [] => cases named
  | .key name :: rest => exact ⟨name, rest, rfl⟩
  | .index i :: rest => cases named

theorem lastNames_of_keyed {writes : List Write} (keyed : Keyed writes) :
    lastNames writes = writes := by
  refine List.rtakeWhile_eq_self_iff.2 fun w hw => ?_
  obtain ⟨name, rest, way⟩ := keyed w hw
  obtain ⟨path, value⟩ := w
  cases way
  rfl

theorem ListedIn.of_writeAll? {writes : List Write} (flat : Flat writes) {old held : Option Json}
    (tidy : Tidy (tableOf old)) (done : writeAll? old writes = some held) {name : String}
    {position : Nat} {l : List String}
    (named : (∀ items, held ≠ some (.arr items)) →
      orDefault [] texts? ((tableOf held).lookup name) = some l)
    (placed : ∀ items, held = some (.arr items) →
      orDefault [] texts? items[position]? = some l) :
    ListedIn old writes name position l := by
  constructor
  · intro last
    have split : writes.rdropWhile isName ++ lastNames writes = writes :=
      List.rdropWhile_append_rtakeWhile
    rw [← split, writeAll?_append] at done
    obtain ⟨middle, first, done⟩ := Option.bind_eq_some_iff.1 done
    have keyed := keyed_lastNames writes
    obtain ⟨table, rfl⟩ := exists_table_of_keyed keyed last done
    obtain ⟨-, each⟩ := lookup_writeAll? keyed (tidy_writeAll? tidy first) done
    have inner := each name
    rw [tableOf_eq_tableBefore flat first] at inner
    exact .of_writeAll? ((flat.lastWrites isName).inside name) inner (named nofun)
  · intro last before
    obtain ⟨items, start, rfl, found, stored⟩ :=
      exists_item_of_lastPositions flat last done position
    have flatHere := (flat.lastWrites isPosition).atPosition position before.length
    exact (ListedAs.of_writeAll? flatHere stored (placed items rfl)).of_found found

theorem ListedIn.map_rewritten {old : Option Json} {writes : List Write} {name : String}
    {position : Nat} {l : List String} (h : ListedIn old writes name position l)
    (tidy : Tidy (tableOf old)) : ListedIn (old.map rewritten) writes name position l := by
  constructor
  · intro last
    have same : (tableBefore (old.map rewritten) writes).lookup name =
        ((tableBefore old writes).lookup name).map rewritten := by
      simp only [tableBefore]
      split
      · exact lookup_tableOf_map_rewritten tidy name
      · rfl
    rw [same]
    exact (h.named last).map_rewritten
  · rw [itemsBefore_map_rewritten]
    exact h.placed

end KubeEntities.Settings
