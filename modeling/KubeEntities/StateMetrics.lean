import KubeEntities.Cycle

/-! The data source over kube-state-metrics: which of its metrics are kept, and how they make up
namespaces, nodes, deployments, pods, containers, services and resource quotas. Of the pods only
pending ones are reported; scheduled ones are left to the source that runs on their node. -/

namespace KubeEntities.StateMetrics
open Fetcher

/-- Of a state set, the series of the current state: those of value 1. -/
def current (metric : String) : Query :=
  { Query.all metric with value := some ⟨.and, .gauge (.ofInt 1)⟩ }

/-- One resource of a metric that has a series for each, under a name of its own. -/
def resource (metric : String) : String × String → Query
  | (resource, name) =>
    { Query.all metric with
      labels := some ⟨.and, .singleton "resource" resource⟩
      customName := some (metric ++ "_" ++ name) }

def cpuAndMemory : List (String × String) := [("cpu", "cpu_cores"), ("memory", "memory_bytes")]

def queries : List Query :=
  [.all "kube_namespace_created",
    .all "kube_namespace_labels",
    current "kube_namespace_status_phase",
    .all "kube_node_info",
    .all "kube_node_created",
    .all "kube_node_labels",
    .all "kube_node_spec_unschedulable",
    .all "kube_deployment_created",
    .all "kube_deployment_labels",
    .all "kube_deployment_spec_replicas",
    .all "kube_deployment_status_replicas_available",
    .all "kube_deployment_status_replicas_unavailable",
    .all "kube_deployment_status_replicas_updated",
    .all "kube_pod_info",
    .all "kube_pod_created",
    .all "kube_pod_labels",
    current "kube_pod_status_phase",
    current "kube_pod_status_scheduled",
    .all "kube_pod_container_info",
    .all "kube_pod_container_status_restarts_total",
    .all "kube_pod_container_status_running",
    -- of the waiting reasons, those that hold now
    { Query.all "kube_pod_container_status_waiting_reason" with
      value := some ⟨.nor, .gauge (.ofInt 0)⟩ },
    .all "kube_service_info",
    .all "kube_service_created",
    .all "kube_service_labels",
    .all "kube_service_spec_type",
    .all "kube_resourcequota",
    .all "kube_resourcequota_created"]
  ++ ["kube_node_status_capacity", "kube_node_status_allocatable"].flatMap (fun metric =>
      (cpuAndMemory ++ [("pods", "pods")]).map (resource metric))
  ++ ["kube_pod_container_resource_requests", "kube_pod_container_resource_limits"].flatMap
      fun metric => cpuAndMemory.map (resource metric)

def attr (name metric label : String) : Spec := ⟨name, fromLabel metric label, .attr, false⟩

def gauge (name metric : String) : Spec := ⟨name, fromValue metric, .gauge, false⟩

/-- The labels of an object, from the metric that carries them. -/
def labels (kind metric : String) : Spec := ⟨"labels", inheritAll kind metric, .attr, true⟩

/-- Whether the current scheduling condition of a pod is `true`. -/
def isScheduled : Fetcher := fun group id groups => do
  let condition ← labelOf IdGenerator.schedulingMetric "condition" group id groups
  return some (.flag (condition == "true"))

def namespaceGroup : SpecGroup where
  type := .fromLabels "kube_namespace_created"
  namespaceOf := some .fromLabel
  specs := [
    attr "namespace" "kube_namespace_created" "namespace",
    gauge "createdAt" "kube_namespace_created",
    attr "status" "kube_namespace_status_phase" "phase",
    labels "namespace" "kube_namespace_labels"]

def nodeGroup : SpecGroup where
  type := .fromLabels "kube_node_info"
  specs := [
    attr "nodeName" "kube_node_info" "node",
    gauge "createdAt" "kube_node_created",
    (attr "kernelVersion" "kube_node_info" "kernel_version").orNothing,
    (attr "osImage" "kube_node_info" "os_image").orNothing,
    (attr "kubeletVersion" "kube_node_info" "kubelet_version").orNothing,
    (attr "containerRuntimeVersion" "kube_node_info" "container_runtime_version").orNothing,
    (gauge "capacityCpuCores" "kube_node_status_capacity_cpu_cores").orNothing,
    (gauge "capacityMemoryBytes" "kube_node_status_capacity_memory_bytes").orNothing,
    (gauge "capacityPods" "kube_node_status_capacity_pods").orNothing,
    (gauge "allocatableCpuCores" "kube_node_status_allocatable_cpu_cores").orNothing,
    (gauge "allocatableMemoryBytes" "kube_node_status_allocatable_memory_bytes").orNothing,
    (gauge "allocatablePods" "kube_node_status_allocatable_pods").orNothing,
    (gauge "unschedulable" "kube_node_spec_unschedulable").orNothing,
    labels "node" "kube_node_labels"]

def deploymentGroup : SpecGroup where
  type := .fromLabels "kube_deployment_created"
  id := some (.fromLabel "kube_deployment_created" "deployment")
  namespaceOf := some .fromLabel
  specs := [
    attr "deploymentName" "kube_deployment_created" "deployment",
    attr "namespaceName" "kube_deployment_created" "namespace",
    gauge "createdAt" "kube_deployment_created",
    gauge "podsDesired" "kube_deployment_spec_replicas",
    gauge "podsAvailable" "kube_deployment_status_replicas_available",
    gauge "podsUnavailable" "kube_deployment_status_replicas_unavailable",
    gauge "podsUpdated" "kube_deployment_status_replicas_updated",
    labels "deployment" "kube_deployment_labels"]

def podGroup : SpecGroup where
  type := .fromLabels IdGenerator.schedulingMetric
  id := some (.pendingPod IdGenerator.schedulingMetric)
  namespaceOf := some .fromLabel
  specs := [
    attr "podName" "kube_pod_info" "pod",
    attr "namespaceName" "kube_pod_info" "namespace",
    gauge "createdAt" "kube_pod_created",
    (attr "createdKind" "kube_pod_info" "created_by_kind").orNothing,
    (attr "createdBy" "kube_pod_info" "created_by_name").orNothing,
    (attr "status" "kube_pod_status_phase" "phase").orNothing,
    ⟨"isScheduled", isScheduled, .attr, false⟩,
    labels "pod" "kube_pod_labels"]

def containerGroup : SpecGroup where
  type := .fromLabels "kube_pod_container_info"
  id := some (.fromLabel "kube_pod_container_info" "container")
  namespaceOf := some .fromLabel
  specs := [
    attr "containerName" "kube_pod_container_info" "container",
    attr "image" "kube_pod_container_info" "image",
    (attr "imageId" "kube_pod_container_info" "image_id").orNothing,
    (attr "containerID" "kube_pod_container_info" "container_id").orNothing,
    attr "podName" "kube_pod_container_info" "pod",
    attr "namespaceName" "kube_pod_container_info" "namespace",
    ⟨"restartCount", fromValue "kube_pod_container_status_restarts_total", .delta, false⟩,
    (gauge "cpuRequestedCores" "kube_pod_container_resource_requests_cpu_cores").orNothing,
    (gauge "memoryRequestedBytes" "kube_pod_container_resource_requests_memory_bytes").orNothing,
    (gauge "cpuLimitCores" "kube_pod_container_resource_limits_cpu_cores").orNothing,
    (gauge "memoryLimitBytes" "kube_pod_container_resource_limits_memory_bytes").orNothing,
    (gauge "isRunning" "kube_pod_container_status_running").orNothing,
    (attr "reason" "kube_pod_container_status_waiting_reason" "reason").orNothing,
    ⟨"nodeName", inheritSome "pod" "kube_pod_info" (.singleton "nodeName" "node"), .attr, false⟩,
    labels "pod" "kube_pod_labels"]

def serviceGroup : SpecGroup where
  type := .fromLabels "kube_service_info"
  id := some (.fromLabel "kube_service_info" "service")
  namespaceOf := some .fromLabel
  specs := [
    attr "serviceName" "kube_service_info" "service",
    attr "namespaceName" "kube_service_info" "namespace",
    gauge "createdAt" "kube_service_created",
    (attr "clusterIP" "kube_service_info" "cluster_ip").orNothing,
    (attr "specType" "kube_service_spec_type" "type").orNothing,
    labels "service" "kube_service_labels"]

/-- Quotas are named by their raw ID, and each resource of a quota is a metric set of its own. -/
def resourceQuotaGroup : SpecGroup where
  type := .fromLabels "kube_resourcequota_created"
  namespaceOf := some .fromLabel
  guesser := some (.custom "ResourceQuota")
  split := some ⟨"resource", some "kube_resourcequota"⟩
  specs := [
    attr "resourcequotaName" "kube_resourcequota_created" "resourcequota",
    attr "namespaceName" "kube_resourcequota_created" "namespace",
    gauge "createdAt" "kube_resourcequota_created",
    attr "resource" "kube_resourcequota" "resource",
    ⟨"quota", fromValuesKeyedByLabel "kube_resourcequota" "type", .gauge, false⟩]

def specs : SpecTable := .ofList [
  ("namespace", namespaceGroup),
  ("node", nodeGroup),
  ("deployment", deploymentGroup),
  ("pod", podGroup),
  ("container", containerGroup),
  ("service", serviceGroup),
  ("resourcequota", resourceQuotaGroup)]

def name : String := "ksm"

def dataSource : DataSource := ⟨name, queries, specs⟩

end KubeEntities.StateMetrics

namespace KubeEntities

/-- The data source configured by a name. -/
def DataSource.ofName? (name : String) : Option DataSource :=
  if name = StateMetrics.name then some StateMetrics.dataSource else none

end KubeEntities
