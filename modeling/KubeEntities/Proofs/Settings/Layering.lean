import KubeEntities.CommandLine
import KubeEntities.Proofs.Settings.Fields

/-! Layering is field by field. What a setting comes to is read from the options, or from the last
variable for its key, or from what the file gives by itself, or is the default
(`Options.apply_layered`). -/

namespace KubeEntities
namespace Settings

/-- The format that a write to `log_format` names. Below it, the name is the key of a table. -/
def formatOf : Write → Json
  | (.key name :: _, _) => .str name
  | (_, value) => value

/-- The settings under given options: each is read from the highest layer that sets it. A variable
for a position in a list sets this item of what is there. -/
structure Layered (o : CommandLine.Options) (environment : List (String × String)) (file : Table)
    (s : Settings) : Prop where
  clusterName : o.clusterName.or (orDefault "" text? (given environment file "cluster_name")) =
    some s.clusterName
  k8sVersion : orDefault "unknown" text? (given environment file "k8s_version") = some s.k8sVersion
  dataSource : orDefault "ksm" text? (given environment file "data_source") = some s.dataSource
  timeoutSecs : orDefault 10 unsigned? (given environment file "timeout_secs") = some s.timeoutSecs
  bearerTokenFile : orDefault none optionalText? (given environment file "bearer_token_file") =
    some s.bearerTokenFile
  logLevel : (if o.verbose then some "debug"
    else orDefault "info" text? (given environment file "log_level")) = some s.logLevel
  pretty : (orDefault false bool? (given environment file "pretty")).map (o.pretty || ·) =
    some s.pretty
  logFormat : orDefault .json logFormat?
    (((written environment ["log_format"]).getLast?.map formatOf).or (file.lookup "log_format")) =
      some s.logFormat
  chosenEndpoints : o.endpoints ≠ [] → s.endpoints = o.endpoints
  endpoints : o.endpoints = [] →
    ListedAs ["http://kube-state-metrics.kube-system.svc:8080/metrics"] (file.lookup "endpoints")
      (written environment ["endpoints"]) s.endpoints
  filter : written environment ["namespace_filter"] = [] →
    orDefault NamespaceFilter.none namespaceFilter? (file.lookup "namespace_filter") =
      some s.namespaceFilter
  filterForm : written environment ["namespace_filter"] ≠ [] →
    lastNames (written environment ["namespace_filter"]) ≠ [] ∨
      lastPositions (written environment ["namespace_filter"]) ≠ []
  included : ListedIn (file.lookup "namespace_filter") (written environment ["namespace_filter"])
    "include" 0 s.namespaceFilter.included
  excluded : ListedIn (file.lookup "namespace_filter") (written environment ["namespace_filter"])
    "exclude" 1 s.namespaceFilter.excluded

theorem format_of_lookup {t : Table} {name : String} {content : Json} {f : LogFormat}
    (held : t.lookup (lower name) = some content) (read : logFormat? (.obj t) = some f) :
    logFormat? (.str name) = some f := by
  match t, read, held with
  | [(key, _)], read, held =>
    rw [SortedMap.lookup_cons_eq] at held
    split at held
    · rename_i same
      subst same
      simpa [logFormat?] using read
    · cases held

namespace WrittenOnto
variable {environment : List (String × String)} {file table : Table}

theorem logFormat (onto : WrittenOnto environment file table) {f : LogFormat}
    (read : orDefault .json logFormat? (table.lookup "log_format") = some f) :
    orDefault .json logFormat?
      (((written environment ["log_format"]).getLast?.map formatOf).or
        (file.lookup "log_format")) = some f := by
  rcases List.eq_nil_or_concat (written environment ["log_format"])
    with unwritten | ⟨before, w, last⟩
  · rwa [unwritten, ← onto.lookup_of_unwritten unwritten]
  rw [List.concat_eq_append] at last
  have flat : Flat (written environment ["log_format"]) := flat_descend _ environment
  obtain ⟨old, held, tidy, done, -, there⟩ := onto "log_format"
  rw [last] at done flat ⊢
  obtain ⟨middle, item, earlier, stored, rfl⟩ := writeAll?_concat done
  obtain ⟨path, value⟩ := w
  rw [there] at read
  rw [List.getLast?_append, List.getLast?_singleton, Option.some_or, Option.map_some,
    Option.some_or]
  cases path with
  | nil =>
    have whole := flat _ (List.mem_append_right _ List.mem_cons_self)
    cases stored
    rw [Option.map_some, putValue_of_not_table whole, rewritten_of_not_table whole] at read
    exact read
  | cons step rest =>
    cases step with
    | index i =>
      obtain ⟨items, rfl⟩ := exists_list_of_putPath? stored
      cases read
    | key name =>
      obtain ⟨tidy', each⟩ := putPath?_inside (tidy_writeAll? tidy earlier) stored
      obtain ⟨t, rfl⟩ := exists_table_of_putPath? stored
      have named := each (lower name)
      rw [inside_singleton, if_pos rfl] at named
      obtain ⟨-, inner, -, -, inside⟩ := @writeAll?_concat _ _ [] _ named
      obtain ⟨t', same, held⟩ := lookup_rewritten (show Tidy t from tidy') (lower name)
      rw [Option.map_some, same] at read
      rw [show t.lookup (lower name) = some inner from inside, Option.map_some] at held
      exact format_of_lookup held read

end WrittenOnto

end Settings

namespace CommandLine.Options
open Settings

/-- The settings of a run, layer by layer. A file in which no key has the Kelvin sign comes to a
table by itself, whatever the other layers say. -/
theorem apply_layered {file : Option String} {environment : List (String × String)}
    {loaded : Settings} (h : ofSources file environment = .ok loaded)
    (plain : ∀ layer ∈ file.elim (some []) fileLayer?, Plain layer) :
    ∃ layer table, file.elim (some []) fileLayer? = some layer ∧ merged? [layer] = some table ∧
      ∀ o : Options, Layered o environment table (o.apply loaded) := by
  obtain ⟨layer, all, read, merged, reads⟩ := ofSources_eq_ok_iff.1 h
  obtain ⟨table, alone, onto⟩ := exists_writtenOnto (plain layer read) merged
  refine ⟨layer, table, read, alone, fun o => ?_⟩
  obtain ⟨texts, naturals, flags, optionals⟩ := readsScalars
  constructor
  case clusterName =>
    have read := onto.scalar texts (by decide +kernel) reads.clusterName
    cases chosen : o.clusterName with
    | none => simpa [apply, chosen] using read
    | some name => simp [apply, chosen]
  case k8sVersion => exact onto.scalar texts (by decide +kernel) reads.k8sVersion
  case dataSource => exact onto.scalar texts (by decide +kernel) reads.dataSource
  case timeoutSecs => exact onto.scalar naturals (by decide +kernel) reads.timeoutSecs
  case bearerTokenFile => exact onto.scalar optionals (by decide +kernel) reads.bearerTokenFile
  case logLevel =>
    have read := onto.scalar texts (by decide +kernel) reads.logLevel
    cases verbose : o.verbose with
    | true => simp [apply, verbose]
    | false => simpa [apply, verbose] using read
  case pretty =>
    rw [onto.scalar flags (by decide +kernel) reads.pretty]
    rfl
  case logFormat => exact onto.logFormat reads.logFormat
  case chosenEndpoints =>
    intro some
    simp [apply, some]
  case endpoints =>
    intro none
    simpa [apply, none] using onto.list reads.endpoints
  case filter =>
    intro unwritten
    have read := reads.namespaceFilter
    rwa [onto.lookup_of_unwritten unwritten] at read
  case filterForm => exact onto.filterForm reads.namespaceFilter
  case included => exact (onto.filterLists reads.namespaceFilter).1
  case excluded => exact (onto.filterLists reads.namespaceFilter).2

theorem apply_layered_mixed :
    let file := "\x7b\"cluster_name\": \"a\", \"endpoints\": [\"/f\", \"/g\"], " ++
      "\"log_format\": \"text\", " ++
      "\"namespace_filter\": \x7b\"include\": [\"w\"], \"exclude\": [\"x\"]\x7d\x7d"
    let environment := [("K8S_METRICS_CLUSTER_NAME", "b"), ("K8S_METRICS_ENDPOINTS[-1]", "/h"),
      ("K8S_METRICS_NAMESPACE_FILTER__INCLUDE", "c,d")]
    let loaded : Settings :=
      { clusterName := "b", endpoints := ["/f", "/h"], logFormat := .text,
        namespaceFilter := ⟨["c", "d"], ["x"]⟩ }
    let o : Options := { verbose := true }
    ofSources (some file) environment = .ok loaded ∧
      ∃ table, Layered o environment table (o.apply loaded) := by
  intro file environment loaded o
  have load : ofSources (some file) environment = .ok loaded := by decide +kernel
  obtain ⟨layer, table, -, -, all⟩ := apply_layered load (by decide +kernel)
  exact ⟨load, table, all o⟩

/-- Where layers are not taken field by field: a variable for one list takes the other away from a
file that gives them by position, and from one that a variable has written over; a variable changes
an item of a list in the file; a key with the Kelvin sign goes over a variable. -/
theorem apply_layered_displaced :
    let byPosition := "\x7b\"namespace_filter\": [[\"a\"], [\"b\"]]\x7d"
    let byName := "\x7b\"namespace_filter\": \x7b\"exclude\": [\"b\"]\x7d\x7d"
    let included := ("K8S_METRICS_NAMESPACE_FILTER__INCLUDE", "c")
    ((ofSources (some byPosition) []).map (·.namespaceFilter) = .ok ⟨["a"], ["b"]⟩ ∧
      (ofSources (some byPosition) [included]).map (·.namespaceFilter) = .ok ⟨["c"], []⟩) ∧
    ((ofSources (some byName) [included]).map (·.namespaceFilter) = .ok ⟨["c"], ["b"]⟩ ∧
      (ofSources (some byName) [("K8S_METRICS_NAMESPACE_FILTER", "x"), included]).map
        (·.namespaceFilter) = .ok ⟨["c"], []⟩) ∧
    (ofSources (some "\x7b\"endpoints\": [\"/a\", \"/b\"]\x7d")
      [("K8S_METRICS_ENDPOINTS[0]", "/x")]).map (·.endpoints) = .ok ["/x", "/b"] ∧
    (ofSources (some "\x7b\"log_format.json.\u212a\": 1\x7d")
      [("K8S_METRICS_LOG_FORMAT", "text")]).map (·.logFormat) = .ok .json := by
  refine ⟨⟨?_, ?_⟩, ⟨?_, ?_⟩, ?_, ?_⟩ <;> decide +kernel

end CommandLine.Options
end KubeEntities
