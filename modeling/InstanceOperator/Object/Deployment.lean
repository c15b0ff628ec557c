import InstanceOperator.Object.Metadata

/-!
# Deployments

The parts of a deployment that this program sets or compares are typed; what else a deployment
holds is carried along in the form of its shape.
-/

namespace InstanceOperator

/-- The fields of an object that are only carried along. -/
abbrev Carried := List (String × Json)

structure ContainerPort where
  containerPort : Int32 := 0
  name : Option String := none
  carried : Carried := []
deriving DecidableEq

structure Container where
  name : String := ""
  image : Option String := none
  ports : Option (List ContainerPort) := none
  carried : Carried := []
deriving DecidableEq

structure PodSpec where
  containers : List Container := []
  carried : Carried := []
deriving DecidableEq

/-- The pods that a deployment makes. -/
structure PodTemplate where
  metadata : Option Metadata := none
  spec : Option PodSpec := none
deriving DecidableEq

/-- A choice of objects by their labels. -/
structure LabelSelector where
  matchLabels : Option Labels := none
  carried : Carried := []
deriving DecidableEq

structure DeploymentSpec where
  replicas : Option Int32 := none
  selector : LabelSelector := {}
  template : PodTemplate := {}
  carried : Carried := []
deriving DecidableEq

structure Deployment where
  metadata : Metadata := {}
  spec : Option DeploymentSpec := none
  carried : Carried := []
deriving DecidableEq

namespace ContainerPort

def fields : List (String × Bool × Shape) :=
  Shape.containerPortFields.filter (·.1 ≠ "name")

def ofJson? : Json → Option ContainerPort
  | .obj ms => do
    return {
      containerPort := ← Json.required Json.int32? 0 "containerPort" ms
      name := ← Json.optional Json.str? "name" ms
      carried := ← Shape.readFields fields ms }
  | _ => none

def toJson (p : ContainerPort) : Json :=
  Json.ofMembers
    ([("containerPort", some (Json.ofInt32 p.containerPort)), ("name", Json.ofStr? p.name)]
      ++ p.carried.map fun m => (m.1, some m.2))

end ContainerPort

namespace Container

def ofJson? : Json → Option Container
  | .obj ms => do
    return {
      name := ← Json.required Json.str? "" "name" ms
      image := ← Json.optional Json.str? "image" ms
      ports := ← Json.optional (Json.list? ContainerPort.ofJson?) "ports" ms
      carried := ← Shape.readFields Shape.containerFields ms }
  | _ => none

def toJson (c : Container) : Json :=
  Json.ofMembers
    ([("image", Json.ofStr? c.image), ("name", some (.str c.name)),
      ("ports", c.ports.map fun ps => .arr (ps.map ContainerPort.toJson))]
      ++ c.carried.map fun m => (m.1, some m.2))

end Container

namespace PodSpec

def ofJson? : Json → Option PodSpec
  | .obj ms => do
    return {
      containers := ← Json.required (Json.list? Container.ofJson?) [] "containers" ms
      carried := ← Shape.readFields Shape.podFields ms }
  | _ => none

def toJson (s : PodSpec) : Json :=
  Json.ofMembers
    (("containers", some (.arr (s.containers.map Container.toJson)))
      :: s.carried.map fun m => (m.1, some m.2))

end PodSpec

namespace PodTemplate

def ofJson? : Json → Option PodTemplate
  | .obj ms => do
    return {
      metadata := ← Json.optional Metadata.ofJson? "metadata" ms
      spec := ← Json.optional PodSpec.ofJson? "spec" ms }
  | _ => none

def toJson (t : PodTemplate) : Json :=
  Json.ofMembers [("metadata", t.metadata.map Metadata.toJson), ("spec", t.spec.map PodSpec.toJson)]

end PodTemplate

namespace LabelSelector

def fields : List (String × Bool × Shape) :=
  [Shape.opt "matchExpressions" (.list (.object
     [Shape.req "key" .string, Shape.req "operator" .string, Shape.opt "values" Shape.strings]))]

def ofJson? : Json → Option LabelSelector
  | .obj ms => do
    return {
      matchLabels := ← Json.optional Labels.ofJson? "matchLabels" ms
      carried := ← Shape.readFields fields ms }
  | _ => none

def toJson (s : LabelSelector) : Json :=
  Json.ofMembers
    (("matchLabels", s.matchLabels.map Labels.toJson) :: s.carried.map fun m => (m.1, some m.2))

end LabelSelector

namespace DeploymentSpec

def fields : List (String × Bool × Shape) :=
  [Shape.opt "minReadySeconds" .int32, Shape.opt "paused" .bool,
   Shape.opt "progressDeadlineSeconds" .int32, Shape.opt "revisionHistoryLimit" .int32,
   Shape.opt "strategy" (.object
     [Shape.opt "rollingUpdate" (.object
        [Shape.opt "maxSurge" .intOrString, Shape.opt "maxUnavailable" .intOrString]),
      Shape.opt "type" .string])]

def ofJson? : Json → Option DeploymentSpec
  | .obj ms => do
    return {
      replicas := ← Json.optional Json.int32? "replicas" ms
      selector := ← Json.required LabelSelector.ofJson? {} "selector" ms
      template := ← Json.required PodTemplate.ofJson? {} "template" ms
      carried := ← Shape.readFields fields ms }
  | _ => none

def toJson (s : DeploymentSpec) : Json :=
  Json.ofMembers
    ([("replicas", s.replicas.map Json.ofInt32), ("selector", some s.selector.toJson),
      ("template", some s.template.toJson)]
      ++ s.carried.map fun m => (m.1, some m.2))

end DeploymentSpec

namespace Deployment

/-- The carried fields of a deployment: what the cluster reports about it. -/
def fields : List (String × Bool × Shape) :=
  [Shape.opt "status" (.object
     [Shape.opt "availableReplicas" .int32, Shape.opt "collisionCount" .int32,
      Shape.opt "conditions" (.list (.object
        [Shape.opt "lastTransitionTime" .timestamp, Shape.opt "lastUpdateTime" .timestamp,
         Shape.opt "message" .string, Shape.opt "reason" .string, Shape.req "status" .string,
         Shape.req "type" .string])),
      Shape.opt "observedGeneration" .int64, Shape.opt "readyReplicas" .int32,
      Shape.opt "replicas" .int32, Shape.opt "unavailableReplicas" .int32,
      Shape.opt "updatedReplicas" .int32])]

/-- Read a deployment. Group, version and kind are right if they are given. -/
def ofJson? : Json → Option Deployment
  | .obj ms => do
    if !(Json.allEqual "apiVersion" "apps/v1" ms && Json.allEqual "kind" "Deployment" ms) then none
    return {
      metadata := ← Json.required Metadata.ofJson? {} "metadata" ms
      spec := ← Json.optional DeploymentSpec.ofJson? "spec" ms
      carried := ← Shape.readFields fields ms }
  | _ => none

def toJson (d : Deployment) : Json :=
  Json.ofMembers
    ([("apiVersion", some (.str "apps/v1")), ("kind", some (.str "Deployment")),
      ("metadata", some d.metadata.toJson), ("spec", d.spec.map DeploymentSpec.toJson)]
      ++ d.carried.map fun m => (m.1, some m.2))

end Deployment

end InstanceOperator
