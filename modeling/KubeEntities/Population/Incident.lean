import KubeEntities.Payload
import KubeEntities.Raw

/-! What can befall a raw entity during population: it is filtered out, or something about it fails.
A failure concerns the whole entity or one of its metrics. -/

namespace KubeEntities

inductive Cause
  | resolve (e : ResolveError)
  | sink (e : SinkError)
deriving DecidableEq

def Cause.message : Cause → String
  | .resolve e => e.message
  | .sink e => e.message

structure PopulateError where
  group : String
  id : String
  /-- the metric concerned; none when the whole entity is -/
  metric : Option String
  cause : Cause
deriving DecidableEq

namespace PopulateError

def message (e : PopulateError) : String :=
  let entity := e.group ++ " entity " ++ e.id ++ ": " ++ e.cause.message
  match e.metric with
  | none => "cannot populate " ++ entity
  | some metric => "cannot populate metric " ++ metric ++ " of " ++ entity

/-- Scheduled pods are left to another source on purpose. -/
def isPodScheduled (e : PopulateError) : Bool :=
  match e.metric, e.cause with
  | none, .resolve (.podScheduled _) => true
  | _, _ => false

end PopulateError

inductive Incident
  | filtered (group id ns : String)
  | failed (e : PopulateError)
deriving DecidableEq

def Incident.error? : Incident → Option PopulateError
  | .filtered .. => none
  | .failed e => some e

end KubeEntities
