import KubeEntities.Strategy.Fetcher
import KubeEntities.Text.Uppercase

/-! Identity strategies: how an entity is named and typed, which namespace it lives in, and what its
metric sets are called. -/

namespace KubeEntities

/-- Names the entity with this group and raw ID. -/
abbrev IdGenerator := String → String → RawGroups → Except ResolveError String

/-- Types it; the last argument, the cluster's name, begins the type. -/
abbrev TypeGenerator := String → String → RawGroups → String → Except ResolveError String

/-- The namespace of the entity, empty when unknown. -/
abbrev NamespaceGetter := String → String → RawGroups → String

/-- Names the metric sets of a group. -/
abbrev Guesser := String → Except ResolveError String

/-- A label of a metric that must have a single series. -/
def anchorLabel (metric : String) (raw : RawValue) (label : String) : Except ResolveError String :=
  match raw with
  | .slice _ => .error (.shapeMismatch metric .labeled)
  | .single s =>
    match s.label? label with
    | none => .error (.labelNotFound metric label)
    | some value => .ok value

namespace IdGenerator

def fromLabel (metric label : String) : IdGenerator := fun group id groups => do
  anchorLabel metric (← groups.metric group id metric) label

def schedulingMetric : String := "kube_pod_status_scheduled"

/-- The pod's name while its scheduling condition is `false`; scheduled pods are left to another
source, which would report them twice. -/
def pendingPod (metric : String) : IdGenerator := fun group id groups => do
  let raw ← groups.metric group id metric
  let pod ← anchorLabel metric raw podLabel
  if (← anchorLabel metric raw "condition") = "false" then return pod
  else .error (.podScheduled pod)

end IdGenerator

namespace TypeGenerator

def requiredLabel (metric label group id : String) (groups : RawGroups) :
    Except ResolveError String := do
  let value ← Fetcher.labelOf metric label group id groups
  if value.isEmpty then .error (.emptyLabel metric label) else return value

/-- `cluster:group`, with the namespace between for groups that live in one, and the pod after it
for containers. -/
def fromLabels (metric : String) : TypeGenerator := fun group id groups cluster => do
  if isClusterWide group then return cluster ++ ":" ++ group
  else
    let ns ← requiredLabel metric namespaceLabel group id groups
    if group = containerLabel then
      let pod ← requiredLabel metric podLabel group id groups
      return cluster ++ ":" ++ ns ++ ":" ++ pod ++ ":" ++ group
    else return cluster ++ ":" ++ ns ++ ":" ++ group

end TypeGenerator

/-- The first non-empty namespace label among the entity's series. -/
def NamespaceGetter.fromLabel : NamespaceGetter := fun group id groups =>
  ((groups.entity? group id).bind fun raw =>
    raw.series.findSome? (Fetcher.nonEmptyLabel? · namespaceLabel)).getD ""

namespace Guesser

/-- `K8s` and `Sample` around the capitalized group label. -/
def capitalized : Guesser := fun group =>
  match Text.capitalize? group with
  | none => .error (.invalidGroupLabel group)
  | some name => .ok ("K8s" ++ name ++ "Sample")

/-- The same around a fixed name. -/
def custom (name : String) : Guesser := fun _ => .ok ("K8s" ++ name ++ "Sample")

end Guesser
end KubeEntities
