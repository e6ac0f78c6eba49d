import KubeEntities.Proofs.StateMetrics.Naming
import KubeEntities.Proofs.StateMetrics.Quotas

/-! Nothing is reported twice in a cycle (`cycle_once`). An entity stands for one raw entity or for
the cluster, and has one metric set, or one for each resource if it is a quota. -/

namespace KubeEntities.StateMetrics

/-- Different raw entities of a cycle are never merged, neither with each other nor with the
cluster. Every entity is the cluster or comes from a raw entity of the kind that its type ends with,
and has one metric set for it; a quota has one for each of its resources. The namespaces must not
hold the character that joins the parts of types; pods and all other objects may be named in any
way. -/
theorem cycle_once (ctx : CycleContext) (integration version : String) {families : List Family}
    (plain : HasPlainNamespaces families) :
    let run := populationOf ctx families
    let cycle := dataSource.cycle ctx families (.create integration version)
    run.Separates ∧
    ∀ e ∈ cycle.payload.entities,
      (e.name = ctx.cluster ∧ e.type = PopulationRun.clusterEntityType ∧
        e.metricSets.length = 1) ∨
      ∃ u ∈ run.rawEntities, run.ReportedAs u e.name e.type ∧
        (∃ start, e.type = start ++ ":" ++ u.group) ∧
        if u.group = "resourcequota" then
          e.name = u.id ∧ e.metricSets.length = (resourcesOf families u.id).length
        else e.metricSets.length = 1 := by
  intro run cycle
  have separates : run.Separates := separates_populationOf plain
  refine ⟨separates, fun e he => ?_⟩
  rcases separates.length_metricSets he with cluster | ⟨u, visited, reported, sets⟩
  · exact .inl cluster
  · have named := namedAs_of_reported plain visited reported
    obtain ⟨start, ends⟩ := named.ends
    refine .inr ⟨u, visited, reported, ⟨start, by rw [ends, String.append_assoc]⟩, ?_⟩
    rw [setCount_of_visited visited] at sets
    split
    · rename_i quota
      have itself := named.identified
      rw [if_pos quota] at sets
      rw [if_pos (by rw [quota]; decide)] at itself
      exact ⟨itself.symm, sets⟩
    · rename_i other
      rwa [if_neg other] at sets

theorem cycle_once_quota :
    let families : List Family := [
      ⟨"kube_resourcequota_created", .gauge, [
        ⟨.ofList [("namespace", "web"), ("resourcequota", "quota")], .gauge (.ofInt 1)⟩]⟩,
      ⟨"kube_resourcequota", .gauge, [
        ⟨.ofList [("namespace", "web"), ("resourcequota", "quota"), ("resource", "pods"),
          ("type", "hard")], .gauge (.ofInt 10)⟩,
        ⟨.ofList [("namespace", "web"), ("resourcequota", "quota"), ("resource", "pods"),
          ("type", "used")], .gauge (.ofInt 4)⟩,
        ⟨.ofList [("namespace", "web"), ("resourcequota", "quota"), ("resource", "cpu"),
          ("type", "hard")], .gauge (.ofInt 8)⟩]⟩,
      ⟨"kube_pod_container_info", .gauge, [
        ⟨.ofList [("namespace", "web"), ("pod", "a:b"), ("container", "app"), ("image", "i")],
          .gauge (.ofInt 1)⟩]⟩]
    let ctx : CycleContext := { cluster := "c", k8sVersion := "1.30" }
    let run := populationOf ctx families
    let cycle := dataSource.cycle ctx families (.create "ksm" "1")
    HasPlainNamespaces families ∧
    resourcesOf families "web_quota" = ["pods", "cpu"] ∧
    (cycle.payload.find? "web_quota" "c:web:resourcequota").map (·.metricSets.length) = some 2 ∧
    (cycle.payload.find? "app" "c:web:a:b:container").map (·.metricSets.length) = some 1 ∧
    run.Separates ∧
    ∀ e ∈ cycle.payload.entities,
      (e.name = ctx.cluster ∧ e.type = PopulationRun.clusterEntityType ∧
        e.metricSets.length = 1) ∨
      ∃ u ∈ run.rawEntities, run.ReportedAs u e.name e.type ∧
        (∃ start, e.type = start ++ ":" ++ u.group) ∧
        if u.group = "resourcequota" then
          e.name = u.id ∧ e.metricSets.length = (resourcesOf families u.id).length
        else e.metricSets.length = 1 := by
  intro families ctx run cycle
  have plain : HasPlainNamespaces families := by decide
  exact ⟨plain, by decide +kernel, by decide +kernel, by decide +kernel,
    cycle_once ctx "ksm" "1" plain⟩

end KubeEntities.StateMetrics
