import KubeEntities.Proofs.Settings.Positions
import KubeEntities.Proofs.Settings.Variables

/-! Loaded settings, field by field. -/

namespace KubeEntities.Settings

structure Reads (held : String → Option Json) (s : Settings) : Prop where
  clusterName : orDefault "" text? (held "cluster_name") = some s.clusterName
  k8sVersion : orDefault "unknown" text? (held "k8s_version") = some s.k8sVersion
  dataSource : orDefault "ksm" text? (held "data_source") = some s.dataSource
  endpoints : orDefault ["http://kube-state-metrics.kube-system.svc:8080/metrics"] texts?
    (held "endpoints") = some s.endpoints
  timeoutSecs : orDefault 10 unsigned? (held "timeout_secs") = some s.timeoutSecs
  bearerTokenFile : orDefault none optionalText? (held "bearer_token_file") = some s.bearerTokenFile
  namespaceFilter : orDefault NamespaceFilter.none namespaceFilter? (held "namespace_filter") =
    some s.namespaceFilter
  logLevel : orDefault "info" text? (held "log_level") = some s.logLevel
  logFormat : orDefault .json logFormat? (held "log_format") = some s.logFormat
  pretty : orDefault false bool? (held "pretty") = some s.pretty

theorem ofTable?_eq_some_iff {table : Table} {s : Settings} :
    ofTable? table = some s ↔ Reads (table.lookup ·) s := by
  constructor
  · intro h
    obtain ⟨clusterName, h1, h⟩ := Option.bind_eq_some_iff.1 h
    obtain ⟨k8sVersion, h2, h⟩ := Option.bind_eq_some_iff.1 h
    obtain ⟨dataSource, h3, h⟩ := Option.bind_eq_some_iff.1 h
    obtain ⟨endpoints, h4, h⟩ := Option.bind_eq_some_iff.1 h
    obtain ⟨timeoutSecs, h5, h⟩ := Option.bind_eq_some_iff.1 h
    obtain ⟨bearerTokenFile, h6, h⟩ := Option.bind_eq_some_iff.1 h
    obtain ⟨namespaceFilter, h7, h⟩ := Option.bind_eq_some_iff.1 h
    obtain ⟨logLevel, h8, h⟩ := Option.bind_eq_some_iff.1 h
    obtain ⟨logFormat, h9, h⟩ := Option.bind_eq_some_iff.1 h
    obtain ⟨pretty, h10, h⟩ := Option.bind_eq_some_iff.1 h
    cases h
    exact ⟨h1, h2, h3, h4, h5, h6, h7, h8, h9, h10⟩
  · rintro ⟨h1, h2, h3, h4, h5, h6, h7, h8, h9, h10⟩
    simp only [ofTable?, h1, h2, h3, h4, h5, h6, h7, h8, h9, h10]
    rfl

theorem ofSources_eq_ok_iff {file : Option String} {environment : List (String × String)}
    {s : Settings} : ofSources file environment = .ok s ↔
      ∃ layer table, file.elim (some []) fileLayer? = some layer ∧
        merged? [layer, environmentLayer environment] = some table ∧ Reads (table.lookup ·) s := by
  rw [ofSources]
  cases file.elim (some []) fileLayer? with
  | none => simp
  | some layer =>
    cases merged : merged? [layer, environmentLayer environment] with
    | none => simp [merged]
    | some table =>
      cases read : ofTable? table with
      | none =>
        have unread (s : Settings) : ¬Reads (table.lookup ·) s := fun reads => by
          rw [ofTable?_eq_some_iff.2 reads] at read
          cases read
        simp [merged, read, unread]
      | some s' =>
        have same : Reads (table.lookup ·) s ↔ s' = s := by
          rw [← ofTable?_eq_some_iff, read, Option.some.injEq]
        simp [merged, read, same]

def ReadsScalars {α : Type} (read? : Json → Option α) : Prop :=
  ∀ j x, read? j = some x → ∃ s, j = .scalar s

theorem readsScalars : ReadsScalars text? ∧ ReadsScalars unsigned? ∧ ReadsScalars bool? ∧
    ReadsScalars optionalText? := by
  refine ⟨?_, ?_, ?_, ?_⟩ <;> intro j x h <;> cases j with
  | scalar s => exact ⟨s, rfl⟩
  | arr items => cases h
  | obj members => cases h

theorem lists_of_filter {held : Option Json} {f : NamespaceFilter}
    (read : orDefault NamespaceFilter.none namespaceFilter? held = some f)
    (noList : ∀ items, held ≠ some (.arr items)) :
    orDefault [] texts? ((tableOf held).lookup "include") = some f.included ∧
      orDefault [] texts? ((tableOf held).lookup "exclude") = some f.excluded := by
  cases held with
  | none =>
    cases read
    exact ⟨rfl, rfl⟩
  | some j =>
    cases j with
    | scalar s => cases read
    | arr items => exact absurd rfl (noList items)
    | obj members =>
      obtain ⟨included, left, read⟩ := Option.bind_eq_some_iff.1 read
      obtain ⟨excluded, right, read⟩ := Option.bind_eq_some_iff.1 read
      cases read
      exact ⟨left, right⟩

theorem items_of_filter {items : List Json} {f : NamespaceFilter}
    (read : orDefault NamespaceFilter.none namespaceFilter? (some (.arr items)) = some f) :
    orDefault [] texts? items[0]? = some f.included ∧
      orDefault [] texts? items[1]? = some f.excluded := by
  obtain ⟨included, left, read⟩ := Option.bind_eq_some_iff.1 read
  obtain ⟨excluded, right, read⟩ := Option.bind_eq_some_iff.1 read
  cases read
  exact ⟨left, right⟩

theorem namespaceFilter?_map_rewritten {held : Option Json} (tidy : Tidy (tableOf held)) :
    orDefault NamespaceFilter.none namespaceFilter? (held.map rewritten) =
      orDefault NamespaceFilter.none namespaceFilter? held := by
  cases held with
  | none => rfl
  | some j =>
    cases j with
    | scalar s => rfl
    | arr items => rfl
    | obj members =>
      have parts (t : Table) : orDefault NamespaceFilter.none namespaceFilter? (some (.obj t)) =
          (orDefault [] texts? (t.lookup "include")).bind fun included =>
            (orDefault [] texts? (t.lookup "exclude")).bind fun excluded =>
              some ⟨included, excluded⟩ := rfl
      have each (key : String) : (tableOf (some (rewritten (.obj members)))).lookup key =
          (members.lookup key).map rewritten := lookup_tableOf_map_rewritten tidy key
      rw [Option.map_some, rewritten_obj, parts, parts, each, each, orDefault_texts?_map_rewritten,
        orDefault_texts?_map_rewritten]

namespace WrittenOnto
variable {environment : List (String × String)} {file table : Table}

theorem scalar (onto : WrittenOnto environment file table) {α : Type} {read? : Json → Option α}
    (scalars : ReadsScalars read?) {key : String} (path : pathOf key = [.key key]) {default x : α}
    (read : orDefault default read? (table.lookup key) = some x) :
    orDefault default read? (given environment file key) = some x := by
  have scalar (j : Json) (there : table.lookup key = some j) : ∃ s, j = .scalar s := by
    rw [there] at read
    exact scalars j x read
  rwa [onto.lookup_eq_given path scalar] at read

theorem list (onto : WrittenOnto environment file table) {key : String} {default l : List String}
    (read : orDefault default texts? (table.lookup key) = some l) :
    ListedAs default (file.lookup key) (written environment [key]) l := by
  obtain ⟨old, held, -, done, fileHas, there⟩ := onto key
  rw [there, orDefault_texts?_map_rewritten] at read
  rw [fileHas]
  exact (ListedAs.of_writeAll? (flat_descend _ _) done read).map_rewritten

theorem filterLists (onto : WrittenOnto environment file table) {f : NamespaceFilter}
    (read : orDefault NamespaceFilter.none namespaceFilter? (table.lookup "namespace_filter") =
      some f) :
    let listed := ListedIn (file.lookup "namespace_filter")
      (written environment ["namespace_filter"])
    listed "include" 0 f.included ∧ listed "exclude" 1 f.excluded := by
  obtain ⟨old, held, tidy, done, fileHas, there⟩ := onto "namespace_filter"
  rw [there, namespaceFilter?_map_rewritten (tidy_writeAll? tidy done)] at read
  rw [fileHas]
  have flat : Flat (written environment ["namespace_filter"]) := flat_descend _ environment
  constructor
  · exact (ListedIn.of_writeAll? flat tidy done (fun noList => (lists_of_filter read noList).1)
      fun items same => (items_of_filter (same ▸ read)).1).map_rewritten tidy
  · exact (ListedIn.of_writeAll? flat tidy done (fun noList => (lists_of_filter read noList).2)
      fun items same => (items_of_filter (same ▸ read)).2).map_rewritten tidy

theorem filterForm (onto : WrittenOnto environment file table) {f : NamespaceFilter}
    (read : orDefault NamespaceFilter.none namespaceFilter? (table.lookup "namespace_filter") =
      some f) (some : written environment ["namespace_filter"] ≠ []) :
    lastNames (written environment ["namespace_filter"]) ≠ [] ∨
      lastPositions (written environment ["namespace_filter"]) ≠ [] := by
  refine (last_cases some).resolve_left ?_
  rintro ⟨before, value, last⟩
  have own : own? environment "namespace_filter" = .some value := by
    rw [← lastWhole?_descend (List.cons_ne_nil "namespace_filter" []) (by decide +kernel)]
    exact (congrArg lastWhole? last).trans (by simp [lastWhole?])
  obtain ⟨text, -, rfl⟩ := Option.map_eq_some_iff.1 own
  obtain ⟨old, held, -, done, -, there⟩ := onto "namespace_filter"
  rw [last] at done
  obtain ⟨middle, item, -, stored, rfl⟩ := writeAll?_concat done
  cases stored
  rw [there, putValue_of_not_table (environmentValue_ne_obj _ text), environmentValue_eq] at read
  -- the key is none of those whose texts are lists, and no scalar is a filter
  cases scalar : scalar? text <;> rw [scalar] at read <;> cases read

end WrittenOnto

end KubeEntities.Settings
