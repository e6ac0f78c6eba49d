import KubeEntities.Proofs.Settings.Fields
import KubeEntities.Proofs.Text.Integer
import Mathlib.Data.List.Nodup

/-! The text of a variable on its way to a setting. A text that reads as a truth value or a number
is taken for one, and what a text setting gets is that value spelled anew; a list setting cannot
take it (`ofSources_variable`). -/

namespace KubeEntities.Settings

/-- The text that a setting gets from a variable with this text. -/
def respelled (text : String) : String := ((scalar? text).bind fun s => text? (.scalar s)).getD text

theorem exists_text_of_scalar? {text : String} {s : Scalar} (h : scalar? text = some s) :
    ∃ shown, text? (.scalar s) = some shown := by
  unfold scalar? at h
  split at h
  · cases h
    exact ⟨_, rfl⟩
  · split at h
    · cases h
      exact ⟨_, rfl⟩
    · rcases Option.or_eq_some_iff.1 h with h | ⟨-, h⟩
      · obtain ⟨n, -, rfl⟩ := Option.map_eq_some_iff.1 h
        by_cases small : n < Nat.pow 2 63
        · exact ⟨toString n, by simp only [text?, scalarOf, if_pos small]⟩
        · exact ⟨(Number.ofInt n).settingText, by simp only [text?, scalarOf, if_neg small]⟩
      · obtain ⟨x, -, rfl⟩ := Option.map_eq_some_iff.1 h
        exact ⟨_, rfl⟩

theorem scalar?_of_signed64? {text : String} {n : Int} (h : Text.signed64? text.toList = some n) :
    scalar? text = some (.int n) := by
  have noWord {word : String} (unread : Text.signed64? word.toList = none) : lower text ≠ word := by
    rintro rfl
    rw [lower, String.toList_ofList, signed64?_map_lowerChar, h] at unread
    cases unread
  rw [scalar?, if_neg (noWord (by decide)), if_neg (noWord (by decide)), h]
  rfl

theorem respelled_toString (i : Int64) : respelled (toString i.toInt) = toString i.toInt := by
  have small : i.toInt < Nat.pow 2 63 := i.toInt_lt
  rw [respelled, scalar?_of_signed64? (Text.signed64?_toString i), Option.bind_some]
  simp only [text?, scalarOf, if_pos small, Option.getD_some]

theorem text?_environmentValue {key : String} (single : key ∉ listKeys) (text : String) :
    text? (environmentValue key text) = some (respelled text) := by
  have notListed : listKeys.contains key = false := by simpa using single
  rw [environmentValue_eq, respelled, notListed]
  cases read : scalar? text with
  | none => rfl
  | some s =>
    obtain ⟨shown, same⟩ := exists_text_of_scalar? read
    simp [same]

theorem texts?_ofStrings (l : List String) : texts? (.ofStrings l) = some l := by
  change (l.map Json.str).mapM text? = some l
  induction l with
  | nil => rfl
  | cons s l ih => simp [ih, text?, scalarOf]

theorem environmentLayer_insert {before after : List (String × String)} {name key : String}
    (named : environmentKey? name = some key) (text : String) :
    environmentLayer (before ++ (name, text) :: after) =
      environmentLayer before ++ (key, environmentValue key text) :: environmentLayer after := by
  simp [environmentLayer, named]

/-- A variable for the key at the end of these names, and no other one for it, for a part of it or
for something below it. -/
structure Alone (names : List String) (before after : List (String × String)) (name : String) :
    Prop where
  named : environmentKey? name = some (".".intercalate names)
  apart : ∀ v ∈ before ++ after, ∀ key ∈ environmentKey? v.1, Apart names (pathOf key)

instance (names : List String) (before after : List (String × String)) (name : String) :
    Decidable (Alone names before after name) :=
  decidable_of_iff (environmentKey? name = some (".".intercalate names) ∧
    ∀ v ∈ before ++ after, ∀ key ∈ environmentKey? v.1, Apart names (pathOf key))
    ⟨fun ⟨named, apart⟩ => ⟨named, apart⟩, fun ⟨named, apart⟩ => ⟨named, apart⟩⟩

def textFields : List (String × (Settings → String)) :=
  [("cluster_name", clusterName), ("k8s_version", k8sVersion), ("data_source", dataSource),
    ("log_level", logLevel)]

def listFields : List (List String × (Settings → List String)) :=
  [(["endpoints"], endpoints), (["namespace_filter", "include"], (·.namespaceFilter.included)),
    (["namespace_filter", "exclude"], (·.namespaceFilter.excluded))]

theorem listKeys_of_listFields {field : List String × (Settings → List String)}
    (h : field ∈ listFields) : listKeys.contains (".".intercalate field.1) = true := by
  have listed : ∀ names ∈ listFields.map Prod.fst,
      listKeys.contains (".".intercalate names) = true := by decide
  exact listed _ (List.mem_map_of_mem h)

def checks : List (String × (Option Json → Bool)) :=
  [("cluster_name", fun held => (orDefault "" text? held).isSome),
    ("k8s_version", fun held => (orDefault "unknown" text? held).isSome),
    ("data_source", fun held => (orDefault "ksm" text? held).isSome),
    ("endpoints", fun held => (orDefault ["http://kube-state-metrics.kube-system.svc:8080/metrics"]
      texts? held).isSome),
    ("timeout_secs", fun held => (orDefault 10 unsigned? held).isSome),
    ("bearer_token_file", fun held => (orDefault none optionalText? held).isSome),
    ("namespace_filter", fun held => (orDefault .none namespaceFilter? held).isSome),
    ("log_level", fun held => (orDefault "info" text? held).isSome),
    ("log_format", fun held => (orDefault .json logFormat? held).isSome),
    ("pretty", fun held => (orDefault false bool? held).isSome)]

theorem exists_reads_iff {held : String → Option Json} :
    (∃ s, Reads held s) ↔ ∀ check ∈ checks, check.2 (held check.1) = true := by
  simp only [checks, List.forall_mem_cons, Option.isSome_iff_exists]
  constructor
  · rintro ⟨s, reads⟩
    exact ⟨⟨_, reads.clusterName⟩, ⟨_, reads.k8sVersion⟩, ⟨_, reads.dataSource⟩,
      ⟨_, reads.endpoints⟩, ⟨_, reads.timeoutSecs⟩, ⟨_, reads.bearerTokenFile⟩,
      ⟨_, reads.namespaceFilter⟩, ⟨_, reads.logLevel⟩, ⟨_, reads.logFormat⟩, ⟨_, reads.pretty⟩,
      nofun⟩
  · rintro ⟨⟨_, h1⟩, ⟨_, h2⟩, ⟨_, h3⟩, ⟨_, h4⟩, ⟨_, h5⟩, ⟨_, h6⟩, ⟨_, h7⟩, ⟨_, h8⟩, ⟨_, h9⟩,
      ⟨_, h10⟩, -⟩
    exact ⟨⟨_, _, _, _, _, _, _, _, _, _⟩, h1, h2, h3, h4, h5, h6, h7, h8, h9, h10⟩

theorem eq_of_mem_checks {check check' : String × (Option Json → Bool)} (h : check ∈ checks)
    (h' : check' ∈ checks) (same : check.1 = check'.1) : check = check' :=
  List.inj_on_of_nodup_map (by decide : (checks.map Prod.fst).Nodup) h h' same

namespace Alone
variable {names : List String} {before after : List (String × String)} {name : String}

theorem layer_eq (alone : Alone names before after name) (text : String) :
    environmentLayer (before ++ (name, text) :: after) = environmentLayer before ++
      (".".intercalate names, environmentValue (".".intercalate names) text) ::
        environmentLayer after :=
  environmentLayer_insert alone.named text

theorem apart_layer (alone : Alone names before after name) :
    ∀ e ∈ environmentLayer before ++ environmentLayer after, Apart names (pathOf e.1) := by
  rw [environmentLayer, environmentLayer, ← List.filterMap_append]
  intro e he
  obtain ⟨v, hv, named, -⟩ := exists_of_mem_environmentLayer he
  exact alone.apart v hv e.1 named

theorem low (alone : Alone names before after name)
    (path : pathOf (".".intercalate names) = names.map .key) :
    ∀ name ∈ names, lower name = name := by
  have low := lower_of_environmentKey? alone.named
  have same := pathOf_lower (low ▸ kelvin_not_mem_lower (".".intercalate names))
  rw [low, path, List.map_map] at same
  exact fun name h => (Step.key.inj (List.map_inj_left.1 same name h)).symm

theorem written_eq (alone : Alone names before after name)
    (path : pathOf (".".intercalate names) = names.map .key) (text : String) :
    written (before ++ (name, text) :: after) names =
      [([], environmentValue (".".intercalate names) text)] := by
  have nothing (layer : List (String × Json)) (apart : ∀ e ∈ layer, Apart names (pathOf e.1)) :
      descend names (writesOf layer) = [] :=
    descend_of_apart (List.forall_mem_map.2 apart)
  obtain ⟨left, right⟩ := List.forall_mem_append.1 alone.apart_layer
  rw [written, alone.layer_eq, writesOf_append, descend_append, nothing _ left, writesOf,
    List.map_cons, ← List.singleton_append, descend_append, path,
    descend_self (alone.low path),
    show (environmentLayer after).map (fun e => (pathOf e.1, e.2)) = writesOf _ from rfl,
    nothing _ right]
  rfl

theorem own?_eq (alone : Alone names before after name) (some : names ≠ [])
    (path : pathOf (".".intercalate names) = names.map .key) (text : String) :
    own? (before ++ (name, text) :: after) (".".intercalate names) =
      Option.some (environmentValue (".".intercalate names) text) := by
  have whole := lastWhole?_descend some path (before ++ (name, text) :: after)
  rw [show descend names _ = _ from alone.written_eq path text] at whole
  exact whole.symm

theorem exists_ok {check : String × (Option Json → Bool)} (hc : check ∈ checks)
    {rest : List String} (alone : Alone (check.1 :: rest) before after name)
    (short : rest.length ≤ 1)
    (path : pathOf (".".intercalate (check.1 :: rest)) = (check.1 :: rest).map .key)
    {file : Option String} (plain : ∀ layer ∈ file.elim (some []) fileLayer?, Plain layer)
    {text : String} {base : Settings} (h : ofSources file (before ++ after) = .ok base)
    (fits : ∀ old new,
      Replaced rest (environmentValue (".".intercalate (check.1 :: rest)) text) old new →
        check.2 old = true → check.2 new = true) :
    ∃ loaded, ofSources file (before ++ (name, text) :: after) = .ok loaded := by
  obtain ⟨layer, table, read, merged, reads⟩ := ofSources_eq_ok_iff.1 h
  have together : environmentLayer (before ++ after) =
      environmentLayer before ++ environmentLayer after := List.filterMap_append
  have allPlain : Plain (layer ++ (environmentLayer before ++
      (".".intercalate (check.1 :: rest),
        environmentValue (".".intercalate (check.1 :: rest)) text) :: environmentLayer after)) := by
    rw [← alone.layer_eq]
    exact List.forall_mem_append.2 ⟨plain layer read, plain_environmentLayer _⟩
  rw [together] at merged
  have short' : (check.1 :: rest).length ≤ 2 := Nat.succ_le_succ short
  obtain ⟨table', merged', -, others, here⟩ := merged?_insert short' (alone.low path) path
    (environmentValue_ne_obj _ text) allPlain alone.apart_layer merged
  have fit := exists_reads_iff.1 ⟨base, reads⟩
  obtain ⟨loaded, reads'⟩ : ∃ s, Reads (table'.lookup ·) s := by
    refine exists_reads_iff.2 fun other ho => ?_
    by_cases same : other.1 = check.1
    · obtain rfl := eq_of_mem_checks ho hc same
      exact fits _ _ here (fit _ hc)
    · exact (congrArg other.2 (others other.1 same)).trans (fit other ho)
  exact ⟨loaded, ofSources_eq_ok_iff.2 ⟨layer, table', read, alone.layer_eq text ▸ merged', reads'⟩⟩

end Alone

theorem read_of_textFields {field : String × (Settings → String)} (h : field ∈ textFields) :
    pathOf field.1 = [.key field.1] ∧ field.1 ∉ listKeys ∧ ∃ default,
      (field.1, fun held => (orDefault default text? held).isSome) ∈ checks ∧
      ∀ held s, Reads held s → orDefault default text? (held field.1) = some (field.2 s) := by
  simp only [textFields, List.mem_cons, List.not_mem_nil, or_false] at h
  rcases h with rfl | rfl | rfl | rfl
  · exact ⟨by decide +kernel, by decide, "", by simp [checks], fun _ _ reads => reads.clusterName⟩
  · exact ⟨by decide +kernel, by decide, "unknown", by simp [checks],
      fun _ _ reads => reads.k8sVersion⟩
  · exact ⟨by decide +kernel, by decide, "ksm", by simp [checks], fun _ _ reads => reads.dataSource⟩
  · exact ⟨by decide +kernel, by decide, "info", by simp [checks], fun _ _ reads => reads.logLevel⟩

namespace Alone
variable {before after : List (String × String)} {name : String}

theorem keyed {first second : String} (alone : Alone [first, second] before after name)
    (path : pathOf (".".intercalate [first, second]) = [.key first, .key second]) (text : String) :
    Keyed (written (before ++ (name, text) :: after) [first]) := by
  intro w hw
  obtain ⟨other, same, there⟩ := exists_of_mem_inside hw
  obtain ⟨e, he, made⟩ := List.mem_map.1 there
  have way : pathOf e.1 = .key other :: w.1 := congrArg Prod.fst made
  rw [alone.layer_eq, List.mem_append, List.mem_cons] at he
  have others (he : e ∈ environmentLayer before ++ environmentLayer after) :
      ∃ name rest, w.1 = .key name :: rest := by
    have apart := alone.apart_layer e he
    rw [way] at apart
    exact @keyed_of_apart _ [w] (List.forall_mem_singleton.2 (apart same)) w List.mem_cons_self
  rcases he with he | rfl | he
  · exact others (List.mem_append_left _ he)
  · rw [path] at way
    exact ⟨second, [], (List.cons.inj way).2.symm⟩
  · exact others (List.mem_append_right _ he)

theorem filterTexts {second : String}
    (alone : Alone ["namespace_filter", second] before after name)
    (path : pathOf (".".intercalate ["namespace_filter", second]) =
      [.key "namespace_filter", .key second]) {text : String} {old : Option Json} {position : Nat}
    {l : List String}
    (listed : ListedIn old (written (before ++ (name, text) :: after) ["namespace_filter"]) second
      position l) :
    texts? (environmentValue (".".intercalate ["namespace_filter", second]) text) = some l := by
  have inner : inside second (written (before ++ (name, text) :: after) ["namespace_filter"]) = _ :=
    alone.written_eq path text
  have some : written (before ++ (name, text) :: after) ["namespace_filter"] ≠ [] := by
    intro none
    rw [none] at inner
    cases inner
  have list := listed.named
  rw [lastNames_of_keyed (alone.keyed path text), inner] at list
  exact (list some).whole rfl

end Alone

theorem Alone.texts_eq {field : List String × (Settings → List String)} (h : field ∈ listFields)
    {before after : List (String × String)} {name : String}
    (alone : Alone field.1 before after name) {file : Option String}
    (plain : ∀ layer ∈ file.elim (some []) fileLayer?, Plain layer) {text : String}
    {loaded : Settings} (load : ofSources file (before ++ (name, text) :: after) = .ok loaded) :
    texts? (environmentValue (".".intercalate field.1) text) = some (field.2 loaded) := by
  obtain ⟨layer, table, read, merged, reads⟩ := ofSources_eq_ok_iff.1 load
  obtain ⟨below, -, onto⟩ := exists_writtenOnto (plain layer read) merged
  simp only [listFields, List.mem_cons, List.not_mem_nil, or_false] at h
  rcases h with rfl | rfl | rfl
  · have list := onto.list reads.endpoints
    rw [alone.written_eq (by decide +kernel) text] at list
    exact list.whole rfl
  · exact alone.filterTexts (by decide +kernel) (onto.filterLists reads.namespaceFilter).1
  · exact alone.filterTexts (by decide +kernel) (onto.filterLists reads.namespaceFilter).2

theorem isSome_lists_of_filter {held : Option Json}
    (read : (orDefault NamespaceFilter.none namespaceFilter? held).isSome) :
    (orDefault [] texts? ((tableOf held).lookup "include")).isSome ∧
      (orDefault [] texts? ((tableOf held).lookup "exclude")).isSome := by
  by_cases list : ∃ items, held = some (.arr items)
  · obtain ⟨items, rfl⟩ := list
    exact ⟨rfl, rfl⟩
  · obtain ⟨f, read⟩ := Option.isSome_iff_exists.1 read
    obtain ⟨included, excluded⟩ := lists_of_filter read fun items same => list ⟨items, same⟩
    exact ⟨Option.isSome_of_eq_some included, Option.isSome_of_eq_some excluded⟩

theorem isSome_filter_of_lists {t : Table}
    (included : (orDefault [] texts? (t.lookup "include")).isSome)
    (excluded : (orDefault [] texts? (t.lookup "exclude")).isSome) :
    (orDefault NamespaceFilter.none namespaceFilter? (some (.obj t))).isSome := by
  obtain ⟨l, included⟩ := Option.isSome_iff_exists.1 included
  obtain ⟨l', excluded⟩ := Option.isSome_iff_exists.1 excluded
  have read : namespaceFilter? (.obj t) = some ⟨l, l'⟩ :=
    Option.bind_eq_some_iff.2 ⟨l, included, Option.bind_eq_some_iff.2 ⟨l', excluded, rfl⟩⟩
  exact Option.isSome_of_eq_some read

theorem isSome_filter_of_replaced {second : String}
    (hs : second = "include" ∨ second = "exclude") {value : Json} {l : List String}
    (value_eq : texts? value = some l) {old new : Option Json}
    (replaced : Replaced [second] value old new)
    (read : (orDefault NamespaceFilter.none namespaceFilter? old).isSome) :
    (orDefault NamespaceFilter.none namespaceFilter? new).isSome := by
  obtain ⟨⟨t, rfl⟩, others, here⟩ := replaced
  obtain ⟨included, excluded⟩ := isSome_lists_of_filter read
  have held : t.lookup second = some value := here
  have fits : (orDefault [] texts? (some value)).isSome := Option.isSome_of_eq_some value_eq
  rcases hs with rfl | rfl
  · exact isSome_filter_of_lists (held ▸ fits) (others "exclude" (by decide) ▸ excluded)
  · exact isSome_filter_of_lists (others "include" (by decide) ▸ included) (held ▸ fits)

theorem Alone.list_loads {field : List String × (Settings → List String)} (h : field ∈ listFields)
    {before after : List (String × String)} {name : String}
    (alone : Alone field.1 before after name) {file : Option String}
    (plain : ∀ layer ∈ file.elim (some []) fileLayer?, Plain layer) {text : String}
    {l : List String} (value_eq : texts? (environmentValue (".".intercalate field.1) text) = some l)
    {base : Settings} (load : ofSources file (before ++ after) = .ok base) :
    ∃ loaded, ofSources file (before ++ (name, text) :: after) = .ok loaded := by
  have endpointsCheck : ("endpoints", fun held => (orDefault
      ["http://kube-state-metrics.kube-system.svc:8080/metrics"] texts? held).isSome) ∈ checks := by
    simp [checks]
  have filterCheck : ("namespace_filter", fun held =>
      (orDefault .none namespaceFilter? held).isSome) ∈ checks := by
    simp [checks]
  simp only [listFields, List.mem_cons, List.not_mem_nil, or_false] at h
  rcases h with rfl | rfl | rfl
  · refine alone.exists_ok endpointsCheck (Nat.zero_le 1) (by decide +kernel) plain load
      fun old new replaced _ => ?_
    obtain rfl : new = some _ := replaced
    exact Option.isSome_of_eq_some value_eq
  · exact alone.exists_ok filterCheck (Nat.le_refl 1) (by decide +kernel) plain load
      fun _ _ replaced => isSome_filter_of_replaced (.inl rfl) value_eq replaced
  · exact alone.exists_ok filterCheck (Nat.le_refl 1) (by decide +kernel) plain load
      fun _ _ replaced => isSome_filter_of_replaced (.inr rfl) value_eq replaced

theorem Alone.respells {field : String × (Settings → String)} (h : field ∈ textFields)
    {before after : List (String × String)} {name : String}
    (alone : Alone [field.1] before after name) {file : Option String}
    (plain : ∀ layer ∈ file.elim (some []) fileLayer?, Plain layer) {text : String}
    {loaded : Settings} (load : ofSources file (before ++ (name, text) :: after) = .ok loaded) :
    field.2 loaded = respelled text := by
  obtain ⟨path, single, default, -, get⟩ := read_of_textFields h
  obtain ⟨layer, table, read, merged, reads⟩ := ofSources_eq_ok_iff.1 load
  obtain ⟨below, -, onto⟩ := exists_writtenOnto (plain layer read) merged
  have held := onto.scalar readsScalars.1 path (get _ _ reads)
  rw [given, show own? _ field.1 = _ from alone.own?_eq (List.cons_ne_nil _ _) path text,
    Option.some_or] at held
  exact Option.some.inj (held.symm.trans (text?_environmentValue single text))

theorem Alone.text_loads {field : String × (Settings → String)} (h : field ∈ textFields)
    {before after : List (String × String)} {name : String}
    (alone : Alone [field.1] before after name) {file : Option String}
    (plain : ∀ layer ∈ file.elim (some []) fileLayer?, Plain layer) {text : String}
    {base : Settings} (load : ofSources file (before ++ after) = .ok base) :
    ∃ loaded, ofSources file (before ++ (name, text) :: after) = .ok loaded := by
  obtain ⟨path, single, default, listed, -⟩ := read_of_textFields h
  refine alone.exists_ok listed (Nat.zero_le 1) path plain load fun old new replaced _ => ?_
  obtain rfl : new = some _ := replaced
  exact Option.isSome_of_eq_some (text?_environmentValue single text)

/-- A variable that sets a text or a list by itself. The text setting is the text respelled, and
the list is the pieces of the text; but a text that reads as a truth value or a number is no list,
and nothing is loaded then. -/
theorem ofSources_variable {file : Option String}
    (plain : ∀ layer ∈ file.elim (some []) fileLayer?, Plain layer)
    (before after : List (String × String)) (name text : String) :
    (∀ field ∈ textFields, Alone [field.1] before after name →
      (∀ loaded, ofSources file (before ++ (name, text) :: after) = .ok loaded →
        field.2 loaded = respelled text) ∧
      ∀ base, ofSources file (before ++ after) = .ok base →
        ∃ loaded, ofSources file (before ++ (name, text) :: after) = .ok loaded) ∧
    ∀ field ∈ listFields, Alone field.1 before after name →
      (∀ loaded, ofSources file (before ++ (name, text) :: after) = .ok loaded →
        scalar? text = none ∧ field.2 loaded = pieces text) ∧
      (scalar? text = none → ∀ base, ofSources file (before ++ after) = .ok base →
        ∃ loaded, ofSources file (before ++ (name, text) :: after) = .ok loaded) := by
  constructor
  · intro field h alone
    exact ⟨fun loaded load => alone.respells h plain load,
      fun base load => alone.text_loads h plain load⟩
  · intro field h alone
    have value_eq : texts? (environmentValue (".".intercalate field.1) text) =
        if scalar? text = none then some (pieces text) else none := by
      rw [environmentValue_eq, listKeys_of_listFields h]
      cases scalar? text with
      | none => exact texts?_ofStrings _
      | some s => rfl
    constructor
    · intro loaded load
      have gets := alone.texts_eq h plain load
      rw [value_eq] at gets
      split at gets
      · rename_i unread
        exact ⟨unread, (Option.some.inj gets).symm⟩
      · cases gets
    · intro unread base load
      exact alone.list_loads h plain (value_eq.trans (if_pos unread)) load

theorem ofSources_variable_zeros :
    let cluster := ("K8S_METRICS_CLUSTER_NAME", "007")
    let endpoints := ("K8S_METRICS_ENDPOINTS", "/a,/b")
    Alone ["cluster_name"] [] [endpoints] cluster.1 ∧ Alone ["endpoints"] [cluster] [] endpoints.1 ∧
      ∃ loaded, ofSources none [cluster, endpoints] = .ok loaded ∧
        loaded.clusterName = respelled "007" ∧ respelled "007" = "7" ∧
        loaded.endpoints = pieces "/a,/b" ∧ pieces "/a,/b" = ["/a", "/b"] := by
  intro cluster endpoints
  have plain : ∀ layer ∈ (none : Option String).elim (some []) fileLayer?, Plain layer := by
    decide +kernel
  have clusterAlone : Alone ["cluster_name"] [] [endpoints] cluster.1 := by decide +kernel
  have endpointsAlone : Alone ["endpoints"] [cluster] [] endpoints.1 := by decide +kernel
  have texts := (ofSources_variable plain [] [endpoints] cluster.1 cluster.2).1
    ("cluster_name", clusterName) (by simp [textFields]) clusterAlone
  have lists := (ofSources_variable plain [cluster] [] endpoints.1 endpoints.2).2
    (["endpoints"], Settings.endpoints) (by simp [listFields]) endpointsAlone
  have load : ofSources none [cluster] = .ok { clusterName := "7" } := by decide +kernel
  obtain ⟨loaded, load⟩ := lists.2 (by decide +kernel) _ load
  exact ⟨clusterAlone, endpointsAlone, loaded, load, texts.1 loaded load, by decide +kernel,
    (lists.1 loaded load).2, by decide +kernel⟩

/-- Texts that a setting does not get as they are. -/
theorem ofSources_variable_misread :
    (∀ read ∈ [("007", "7"), ("+1", "1"), ("TRUE", "true"), ("1e3", "1000"), ("1.0", "1")],
      (ofSources none [("K8S_METRICS_CLUSTER_NAME", read.1)]).map clusterName = .ok read.2 ∧
        read.2 ≠ read.1) ∧
    ∀ name ∈ ["K8S_METRICS_ENDPOINTS", "K8S_METRICS_NAMESPACE_FILTER__INCLUDE",
      "K8S_METRICS_NAMESPACE_FILTER__EXCLUDE"], ofSources none [(name, "1")] = .error .invalid := by
  decide +kernel

end KubeEntities.Settings
