import InstanceOperator.Object.Service

/-!
# Ingresses

An ingress routes requests from outside by host and path to ports of services.
-/

namespace InstanceOperator

/-- A port of a service that requests go to. -/
structure BackendPort where
  name : Option String := none
  number : Option Int32 := none
deriving DecidableEq

/-- A service that requests go to. -/
structure BackendService where
  name : String := ""
  port : Option BackendPort := none
deriving DecidableEq

/-- Where requests go. -/
structure IngressBackend where
  service : Option BackendService := none
  carried : Carried := []
deriving DecidableEq

/-- A path and where requests for it go. -/
structure IngressPath where
  path : Option String := none
  pathType : String := ""
  backend : IngressBackend := {}
deriving DecidableEq

/-- The paths of one host. The list of paths is absent if the rule has no HTTP part. -/
structure IngressRule where
  host : Option String := none
  paths : Option (List IngressPath) := none
deriving DecidableEq

structure IngressSpec where
  rules : Option (List IngressRule) := none
  carried : Carried := []
deriving DecidableEq

structure Ingress where
  metadata : Metadata := {}
  spec : Option IngressSpec := none
  carried : Carried := []
deriving DecidableEq

namespace BackendPort

def ofJson? : Json → Option BackendPort
  | .obj ms => do
    return {
      name := ← Json.optional Json.str? "name" ms
      number := ← Json.optional Json.int32? "number" ms }
  | _ => none

def toJson (p : BackendPort) : Json :=
  Json.ofMembers [("name", Json.ofStr? p.name), ("number", p.number.map Json.ofInt32)]

end BackendPort

namespace BackendService

def ofJson? : Json → Option BackendService
  | .obj ms => do
    return {
      name := ← Json.required Json.str? "" "name" ms
      port := ← Json.optional BackendPort.ofJson? "port" ms }
  | _ => none

def toJson (s : BackendService) : Json :=
  Json.ofMembers [("name", some (.str s.name)), ("port", s.port.map BackendPort.toJson)]

end BackendService

namespace IngressBackend

def fields : List (String × Bool × Shape) :=
  [Shape.opt "resource" Shape.typedReference]

def ofJson? : Json → Option IngressBackend
  | .obj ms => do
    return {
      service := ← Json.optional BackendService.ofJson? "service" ms
      carried := ← Shape.readFields fields ms }
  | _ => none

def toJson (b : IngressBackend) : Json :=
  Json.ofMembers
    (("service", b.service.map BackendService.toJson) :: b.carried.map fun m => (m.1, some m.2))

end IngressBackend

namespace IngressPath

def ofJson? : Json → Option IngressPath
  | .obj ms => do
    return {
      backend := ← Json.required IngressBackend.ofJson? {} "backend" ms
      path := ← Json.optional Json.str? "path" ms
      pathType := ← Json.required Json.str? "" "pathType" ms }
  | _ => none

def toJson (p : IngressPath) : Json :=
  Json.ofMembers
    [("backend", some p.backend.toJson), ("path", Json.ofStr? p.path),
     ("pathType", some (.str p.pathType))]

end IngressPath

namespace IngressRule

/-- Read the HTTP part of a rule. -/
def httpPaths? : Json → Option (List IngressPath)
  | .obj ms => Json.required (Json.list? IngressPath.ofJson?) [] "paths" ms
  | _ => none

def ofJson? : Json → Option IngressRule
  | .obj ms => do
    return {
      host := ← Json.optional Json.str? "host" ms
      paths := ← Json.optional httpPaths? "http" ms }
  | _ => none

def toJson (r : IngressRule) : Json :=
  Json.ofMembers
    [("host", Json.ofStr? r.host),
     ("http", r.paths.map fun ps => .obj [("paths", .arr (ps.map IngressPath.toJson))])]

end IngressRule

namespace IngressSpec

/-- The shape of a backend that is only carried along. -/
def backendShape : Shape := .object
  [Shape.opt "resource" Shape.typedReference,
   Shape.opt "service" (.object
     [Shape.req "name" .string,
      Shape.opt "port" (.object [Shape.opt "name" .string, Shape.opt "number" .int32])])]

def fields : List (String × Bool × Shape) :=
  [Shape.opt "defaultBackend" backendShape, Shape.opt "ingressClassName" .string,
   Shape.opt "tls" (.list (.object
     [Shape.opt "hosts" Shape.strings, Shape.opt "secretName" .string]))]

def ofJson? : Json → Option IngressSpec
  | .obj ms => do
    return {
      rules := ← Json.optional (Json.list? IngressRule.ofJson?) "rules" ms
      carried := ← Shape.readFields fields ms }
  | _ => none

def toJson (s : IngressSpec) : Json :=
  Json.ofMembers
    (("rules", s.rules.map fun rs => .arr (rs.map IngressRule.toJson))
      :: s.carried.map fun m => (m.1, some m.2))

end IngressSpec

namespace Ingress

/-- The carried fields of an ingress: what the cluster reports about it. -/
def fields : List (String × Bool × Shape) :=
  [Shape.opt "status" (.object
     [Shape.opt "loadBalancer" (.object
        [Shape.opt "ingress" (.list (.object
           [Shape.opt "hostname" .string, Shape.opt "ip" .string,
            Shape.opt "ports" (.list Service.portStatus)]))])])]

/-- Read an ingress. Group, version and kind are right if they are given. -/
def ofJson? : Json → Option Ingress
  | .obj ms => do
    if !(Json.allEqual "apiVersion" "networking.k8s.io/v1" ms && Json.allEqual "kind" "Ingress" ms)
    then none
    return {
      metadata := ← Json.required Metadata.ofJson? {} "metadata" ms
      spec := ← Json.optional IngressSpec.ofJson? "spec" ms
      carried := ← Shape.readFields fields ms }
  | _ => none

def toJson (i : Ingress) : Json :=
  Json.ofMembers
    ([("apiVersion", some (.str "networking.k8s.io/v1")), ("kind", some (.str "Ingress")),
      ("metadata", some i.metadata.toJson), ("spec", i.spec.map IngressSpec.toJson)]
      ++ i.carried.map fun m => (m.1, some m.2))

end Ingress

end InstanceOperator
