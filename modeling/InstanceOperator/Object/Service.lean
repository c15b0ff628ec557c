import InstanceOperator.Object.Deployment

/-!
# Services

A service gives the pods of a selector one address, and forwards its ports to ports of theirs.
-/

namespace InstanceOperator

/-- A port of a pod, by number or by name. -/
inductive PortTarget where
  | number (n : Int32)
  | name (s : String)
deriving DecidableEq

structure ServicePort where
  name : Option String := none
  port : Int32 := 0
  protocol : Option String := none
  targetPort : Option PortTarget := none
  carried : Carried := []
deriving DecidableEq

structure ServiceSpec where
  ports : Option (List ServicePort) := none
  selector : Option Labels := none
  type : Option String := none
  carried : Carried := []
deriving DecidableEq

structure Service where
  metadata : Metadata := {}
  spec : Option ServiceSpec := none
  carried : Carried := []
deriving DecidableEq

namespace PortTarget

def ofJson? : Json → Option PortTarget
  | .str s => some (.name s)
  | j => (Json.int32? j).map .number

def toJson : PortTarget → Json
  | .number n => Json.ofInt32 n
  | .name s => .str s

end PortTarget

namespace ServicePort

def fields : List (String × Bool × Shape) :=
  [Shape.opt "appProtocol" .string, Shape.opt "nodePort" .int32]

def ofJson? : Json → Option ServicePort
  | .obj ms => do
    return {
      name := ← Json.optional Json.str? "name" ms
      port := ← Json.required Json.int32? 0 "port" ms
      protocol := ← Json.optional Json.str? "protocol" ms
      targetPort := ← Json.optional PortTarget.ofJson? "targetPort" ms
      carried := ← Shape.readFields fields ms }
  | _ => none

def toJson (p : ServicePort) : Json :=
  Json.ofMembers
    ([("name", Json.ofStr? p.name), ("port", some (Json.ofInt32 p.port)),
      ("protocol", Json.ofStr? p.protocol), ("targetPort", p.targetPort.map PortTarget.toJson)]
      ++ p.carried.map fun m => (m.1, some m.2))

end ServicePort

namespace ServiceSpec

def fields : List (String × Bool × Shape) :=
  [Shape.opt "allocateLoadBalancerNodePorts" .bool, Shape.opt "clusterIP" .string,
   Shape.opt "clusterIPs" Shape.strings, Shape.opt "externalIPs" Shape.strings,
   Shape.opt "externalName" .string, Shape.opt "externalTrafficPolicy" .string,
   Shape.opt "healthCheckNodePort" .int32, Shape.opt "internalTrafficPolicy" .string,
   Shape.opt "ipFamilies" Shape.strings, Shape.opt "ipFamilyPolicy" .string,
   Shape.opt "loadBalancerClass" .string, Shape.opt "loadBalancerIP" .string,
   Shape.opt "loadBalancerSourceRanges" Shape.strings,
   Shape.opt "publishNotReadyAddresses" .bool, Shape.opt "sessionAffinity" .string,
   Shape.opt "sessionAffinityConfig" (.object
     [Shape.opt "clientIP" (.object [Shape.opt "timeoutSeconds" .int32])]),
   Shape.opt "trafficDistribution" .string]

def ofJson? : Json → Option ServiceSpec
  | .obj ms => do
    return {
      ports := ← Json.optional (Json.list? ServicePort.ofJson?) "ports" ms
      selector := ← Json.optional Labels.ofJson? "selector" ms
      type := ← Json.optional Json.str? "type" ms
      carried := ← Shape.readFields fields ms }
  | _ => none

def toJson (s : ServiceSpec) : Json :=
  Json.ofMembers
    ([("ports", s.ports.map fun ps => .arr (ps.map ServicePort.toJson)),
      ("selector", s.selector.map Labels.toJson), ("type", Json.ofStr? s.type)]
      ++ s.carried.map fun m => (m.1, some m.2))

end ServiceSpec

namespace Service

/-- The status of a port of a load balancer. -/
def portStatus : Shape := .object
  [Shape.opt "error" .string, Shape.req "port" .int32, Shape.req "protocol" .string]

/-- The carried fields of a service: what the cluster reports about it. -/
def fields : List (String × Bool × Shape) :=
  [Shape.opt "status" (.object
     [Shape.opt "conditions" (.list (.object
        [Shape.req "lastTransitionTime" .timestamp, Shape.req "message" .string,
         Shape.opt "observedGeneration" .int64, Shape.req "reason" .string,
         Shape.req "status" .string, Shape.req "type" .string])),
      Shape.opt "loadBalancer" (.object
        [Shape.opt "ingress" (.list (.object
           [Shape.opt "hostname" .string, Shape.opt "ip" .string, Shape.opt "ipMode" .string,
            Shape.opt "ports" (.list portStatus)]))])])]

/-- Read a service. Version and kind are right if they are given. -/
def ofJson? : Json → Option Service
  | .obj ms => do
    if !(Json.allEqual "apiVersion" "v1" ms && Json.allEqual "kind" "Service" ms) then none
    return {
      metadata := ← Json.required Metadata.ofJson? {} "metadata" ms
      spec := ← Json.optional ServiceSpec.ofJson? "spec" ms
      carried := ← Shape.readFields fields ms }
  | _ => none

def toJson (s : Service) : Json :=
  Json.ofMembers
    ([("apiVersion", some (.str "v1")), ("kind", some (.str "Service")),
      ("metadata", some s.metadata.toJson), ("spec", s.spec.map ServiceSpec.toJson)]
      ++ s.carried.map fun m => (m.1, some m.2))

end Service

end InstanceOperator
