import KubeEntities.Proofs.Settings.Merged

/-! The layer that variables make. Its keys are in lower case and its values are no tables. At a
place that is reached by names alone, what is written as a whole comes from the variables with
exactly this key (`lastWhole?_descend`). -/

namespace KubeEntities.Settings

theorem mem_dotted {c : Char} {chars : List Char} (h : c ∈ dotted chars) : c = '.' ∨ c ∈ chars := by
  induction chars using dotted.induct with
  | case1 rest ih =>
    rw [dotted] at h
    rcases List.mem_cons.1 h with same | h
    · exact .inl same
    · exact (ih h).imp_right fun there => List.mem_cons_of_mem _ (List.mem_cons_of_mem _ there)
  | case2 d rest other ih =>
    rw [dotted] at h
    · rcases List.mem_cons.1 h with rfl | h
      · exact .inr List.mem_cons_self
      · exact (ih h).imp_right (List.mem_cons_of_mem _)
    · exact other
  | case3 => exact absurd h List.not_mem_nil

theorem lower_of_environmentKey? {name key : String} (h : environmentKey? name = some key) :
    lower key = key := by
  simp only [environmentKey?] at h
  split at h
  · rw [← Option.some.inj h]
    have low : ∀ c ∈ dotted ((lower name).toList.drop environmentPrefix.length),
        lowerChar c = c := by
      intro c hc
      rcases mem_dotted hc with rfl | hc
      · rfl
      · rw [lower, String.toList_ofList] at hc
        obtain ⟨d, -, rfl⟩ := List.mem_map.1 (List.mem_of_mem_drop hc)
        exact lowerChar_lowerChar d
    rw [lower, String.toList_ofList, List.map_congr_left low, List.map_id']
  · cases h

theorem exists_of_mem_environmentLayer {environment : List (String × String)} {e : String × Json}
    (h : e ∈ environmentLayer environment) : ∃ v ∈ environment,
      environmentKey? v.1 = some e.1 ∧ e.2 = environmentValue e.1 v.2 := by
  obtain ⟨v, hv, made⟩ := List.mem_filterMap.1 h
  obtain ⟨key, named, rfl⟩ := Option.map_eq_some_iff.1 made
  exact ⟨v, hv, named, rfl⟩

theorem plain_environmentLayer (environment : List (String × String)) :
    Plain (environmentLayer environment) := by
  intro e he
  obtain ⟨v, -, named, -⟩ := exists_of_mem_environmentLayer he
  exact lower_of_environmentKey? named ▸ kelvin_not_mem_lower e.1

/-- What a variable's text reads as when it is not taken for a text. -/
def scalar? (text : String) : Option Scalar :=
  if lower text = "true" then some (.bool true)
  else if lower text = "false" then some (.bool false)
  else ((Text.signed64? text.toList).map .int).or ((Number.ofChars? text.toList).map .float)

/-- A text with commas as a list. -/
def pieces (text : String) : List String :=
  (Text.splitAt (· == ',') text.toList).map String.ofList

theorem environmentValue_eq (key text : String) : environmentValue key text =
    ((scalar? text).map .scalar).getD
      (if listKeys.contains key then .ofStrings (pieces text) else .str text) := by
  simp only [environmentValue]
  split
  · rename_i same
    simp [scalar?, same]
  · rename_i same
    simp [scalar?, same]
  · rename_i notTrue notFalse
    rw [scalar?, if_neg notTrue, if_neg notFalse]
    cases Text.signed64? text.toList with
    | some n => rfl
    | none => cases Number.ofChars? text.toList <;> rfl

theorem environmentValue_ne_obj (key text : String) (members : Table) :
    environmentValue key text ≠ .obj members := by
  rw [environmentValue_eq]
  cases scalar? text with
  | some s => nofun
  | none => cases listKeys.contains key <;> nofun

def lastText? (environment : List (String × String)) (key : String) : Option String :=
  (environment.filter fun v => environmentKey? v.1 == some key).getLast?.map (·.2)

/-- What the variables set under this key. -/
def own? (environment : List (String × String)) (key : String) : Option Json :=
  (lastText? environment key).map (environmentValue key)

/-- Writes as they look from the end of a path of names. -/
def descend (names : List String) (writes : List Write) : List Write :=
  names.foldl (fun writes name => inside name writes) writes

theorem descend_nil (names : List String) : descend names [] = [] := by
  induction names with
  | nil => rfl
  | cons name names ih => exact ih

theorem descend_append (names : List String) (writes writes' : List Write) :
    descend names (writes ++ writes') = descend names writes ++ descend names writes' := by
  induction names generalizing writes writes' with
  | nil => rfl
  | cons name names ih =>
    rw [descend, List.foldl_cons, inside_append]
    exact ih _ _

theorem descend_singleton (names : List String) (path : List Step) (value : Json) :
    (descend names [(path, value)]).filter (·.1.isEmpty) =
      if path.map Step.lower = names.map .key then [([], value)] else [] := by
  induction names generalizing path with
  | nil => cases path <;> simp [descend]
  | cons name names ih =>
    cases path with
    | nil => exact congrArg _ (descend_nil names)
    | cons step rest =>
      cases step with
      | index i => exact (congrArg _ (descend_nil names)).trans (by simp [Step.lower])
      | key first =>
        rw [descend, List.foldl_cons, inside_singleton]
        by_cases same : lower first = name
        · rw [if_pos same]
          refine (ih rest).trans ?_
          simp [Step.lower, same]
        · rw [if_neg same]
          refine (congrArg _ (descend_nil names)).trans ?_
          simp [Step.lower, same]

theorem descend_of_apart {names : List String} {writes : List Write}
    (apart : ∀ w ∈ writes, Apart names w.1) : descend names writes = [] := by
  induction names generalizing writes with
  | nil => exact List.eq_nil_iff_forall_not_mem.2 fun w hw => apart w hw
  | cons name names ih => exact ih (apart_inside apart)

theorem descend_self {names : List String} (low : ∀ name ∈ names, lower name = name)
    (value : Json) : descend names [(names.map .key, value)] = [([], value)] := by
  induction names with
  | nil => rfl
  | cons name names ih =>
    obtain ⟨here, others⟩ := List.forall_mem_cons.1 low
    rw [descend, List.foldl_cons, List.map_cons, inside_singleton, if_pos here]
    exact ih others

theorem filter_descend {key : String} {names : List String} (some : names ≠ [])
    (path : pathOf key = names.map .key) (environment : List (String × String)) :
    (descend names (writesOf (environmentLayer environment))).filter (·.1.isEmpty) =
      (environment.filter fun v => environmentKey? v.1 == Option.some key).map fun v =>
        ([], environmentValue key v.2) := by
  induction environment with
  | nil => exact congrArg _ (descend_nil names)
  | cons v environment ih =>
    cases named : environmentKey? v.1 with
    | none =>
      have skipped : environmentLayer (v :: environment) = environmentLayer environment := by
        simp [environmentLayer, named]
      simp [skipped, ih, named]
    | some key' =>
      have first : environmentLayer (v :: environment) =
          (key', environmentValue key' v.2) :: environmentLayer environment := by
        simp [environmentLayer, named]
      have low := pathOf_lower (lower_of_environmentKey? named ▸ kelvin_not_mem_lower key')
      rw [lower_of_environmentKey? named] at low
      rw [first, writesOf, List.map_cons, ← List.singleton_append, descend_append,
        List.filter_append, descend_singleton, ← low, List.filter_cons, named]
      by_cases same : key' = key
      · subst same
        rw [if_pos path, if_pos (beq_self_eq_true _), List.map_cons, List.singleton_append]
        exact congrArg _ ih
      · have other : pathOf key' ≠ names.map .key :=
          fun path' => same (eq_of_pathOf_eq some path' path)
        rw [if_neg other, if_neg (by simpa using same), List.nil_append]
        exact ih

theorem lastWhole?_descend {key : String} {names : List String} (some : names ≠ [])
    (path : pathOf key = names.map .key) (environment : List (String × String)) :
    lastWhole? (descend names (writesOf (environmentLayer environment))) =
      own? environment key := by
  rw [lastWhole?, filter_descend some path, List.getLast?_map, Option.map_map, own?, lastText?,
    Option.map_map]
  rfl

theorem Flat.descend {writes : List Write} (flat : Flat writes) (names : List String) :
    Flat (descend names writes) := by
  induction names generalizing writes with
  | nil => exact flat
  | cons name names ih => exact ih (flat.inside name)

theorem flat_descend (names : List String) (environment : List (String × String)) :
    Flat (descend names (writesOf (environmentLayer environment))) := by
  refine Flat.descend (fun w hw members same => ?_) names
  obtain ⟨e, he, rfl⟩ := List.mem_map.1 hw
  obtain ⟨v, -, -, value⟩ := exists_of_mem_environmentLayer he
  exact environmentValue_ne_obj e.1 v.2 members (value.symm.trans same)

theorem held?_append (entries entries' : List (String × Json)) (key : String) :
    held? (entries ++ entries') key =
      (held? entries key).bind fun old => writeAll? old (inside key (writesOf entries')) := by
  rw [held?, writesOf_append, inside_append, writeAll?_append]
  rfl

def written (environment : List (String × String)) (names : List String) : List Write :=
  descend names (writesOf (environmentLayer environment))

/-- Under each key the variables write onto what the file gives by itself. -/
def WrittenOnto (environment : List (String × String)) (file table : Table) : Prop :=
  ∀ key, ∃ old held, Tidy (tableOf old) ∧ writeAll? old (written environment [key]) = some held ∧
    file.lookup key = old.map rewritten ∧ table.lookup key = held.map rewritten

theorem exists_writtenOnto {layer : List (String × Json)} (plain : Plain layer)
    {environment : List (String × String)} {table : Table}
    (h : merged? [layer, environmentLayer environment] = some table) :
    ∃ file, merged? [layer] = some file ∧ WrittenOnto environment file table := by
  have single : [layer].flatten = layer := List.flatten_singleton
  have both : [layer, environmentLayer environment].flatten =
      layer ++ environmentLayer environment := by simp
  have allPlain : Plain (layer ++ environmentLayer environment) :=
    List.forall_mem_append.2 ⟨plain, plain_environmentLayer environment⟩
  have place (key : String) : ∃ old held, held? layer key = some old ∧
      writeAll? old (written environment [key]) = some held ∧
        table.lookup key = held.map rewritten := by
    obtain ⟨held, done, there⟩ := lookup_merged? (both ▸ allPlain) h key
    rw [both, held?_append] at done
    obtain ⟨old, before, done⟩ := Option.bind_eq_some_iff.1 done
    exact ⟨old, held, before, done, there⟩
  have alone : (merged? [layer]).isSome := by
    refine isSome_merged? (single.symm ▸ plain) fun key => ?_
    obtain ⟨old, _, before, _⟩ := place key
    rw [single, before]
    rfl
  obtain ⟨file, alone⟩ := Option.isSome_iff_exists.1 alone
  refine ⟨file, alone, fun key => ?_⟩
  obtain ⟨old, held, before, done, there⟩ := place key
  obtain ⟨old', before', fileHas⟩ := lookup_merged? (single.symm ▸ plain) alone key
  rw [single, before] at before'
  cases before'
  exact ⟨old, held, @tidy_writeAll? _ none _ Tidy.nil before, done, fileHas, there⟩

/-- What a key is given: by the last variable for it, or else by the file. -/
def given (environment : List (String × String)) (file : Table) (key : String) : Option Json :=
  (own? environment key).or (file.lookup key)

namespace WrittenOnto
variable {environment : List (String × String)} {file table : Table}

theorem lookup_eq_given (onto : WrittenOnto environment file table) {key : String}
    (path : pathOf key = [.key key])
    (scalar : ∀ j, table.lookup key = some j → ∃ s, j = .scalar s) :
    table.lookup key = given environment file key := by
  obtain ⟨old, held, -, done, fileHas, there⟩ := onto key
  rw [there] at scalar
  have noTable (t : Table) : held ≠ some (.obj t) := by
    rintro rfl
    obtain ⟨s, same⟩ := scalar _ (congrArg some (rewritten_obj t))
    cases same
  have noList (items : List Json) : held ≠ some (.arr items) := by
    rintro rfl
    obtain ⟨s, same⟩ := scalar _ rfl
    cases same
  have last := eq_lastWhole?_or (flat_descend [key] environment) done noTable (.inl noList)
  rw [lastWhole?_descend (List.cons_ne_nil _ _) path] at last
  rw [there, given, fileHas, last]
  cases chosen : own? environment key with
  | none => rfl
  | some value =>
    obtain ⟨text, -, rfl⟩ := Option.map_eq_some_iff.1 chosen
    exact congrArg some (rewritten_of_not_table (environmentValue_ne_obj key text))

theorem lookup_of_unwritten (onto : WrittenOnto environment file table) {key : String}
    (unwritten : written environment [key] = []) : table.lookup key = file.lookup key := by
  obtain ⟨old, held, -, done, fileHas, there⟩ := onto key
  rw [unwritten] at done
  cases done
  rw [there, fileHas]

end WrittenOnto

end KubeEntities.Settings
