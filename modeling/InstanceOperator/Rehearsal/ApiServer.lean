import InstanceOperator.Registry
import InstanceOperator.Store.Cluster

/-!
# A server of a cluster

A server that keeps objects by their paths. It answers with an object or with the fact that there is
none, and stores a posted object unless there is one at its path.
-/

namespace InstanceOperator

/-- The path of an object in a collection. -/
def objectPath (collection name : String) : String :=
  collection ++ "/" ++ name

def Instance.path (i : Instance) : String :=
  objectPath (instanceCollection (some (i.metadata.ns.getD ""))) (i.metadata.name.getD "")

def Dependent.path (d : Dependent) : String :=
  objectPath (d.kind.collection (some d.key.ns)) d.key.name

/-- The name that an object's metadata give it. -/
def nameOf (j : Json) : String :=
  (((j.get? "metadata").bind (·.get? "name")).bind Json.str?).getD ""

/-- The body that reports a failure. -/
def statusBody (code : Nat) (message reason : String) : Json :=
  .obj
    [("apiVersion", .str "v1"), ("code", .int code), ("kind", .str "Status"),
     ("message", .str message), ("metadata", .obj []), ("reason", .str reason),
     ("status", .str "Failure")]

/-- A server of a cluster. -/
structure ApiServer where
  /-- The objects by their paths. -/
  objects : Registry String Json := Registry.empty
deriving DecidableEq

namespace ApiServer

/-- Store an object, in place of one at its path. -/
def put (s : ApiServer) (path : String) (object : Json) : ApiServer :=
  { s with objects := s.objects.insert path object }

/-- Drop the object at a path. -/
def drop (s : ApiServer) (path : String) : ApiServer :=
  { s with objects := s.objects.erase path }

/-- A reply that reports a failure. -/
def failure (code : Nat) (message reason : String) : Reply :=
  .answered code (.json (statusBody code message reason))

/-- Answer a request. -/
def answer (s : ApiServer) : Request → Reply × ApiServer
  | .fetch target =>
    match s.objects.get? target.path with
    | some object => (.answered 200 (.json object), s)
    | none => (failure 404 (target.path ++ " not found") "NotFound", s)
  | .post target object =>
    let path := objectPath target.path (nameOf object)
    if s.objects.contains path then
      (failure 409 (path ++ " already exists") "AlreadyExists", s)
    else (.answered 201 (.json object), s.put path object)

end ApiServer

end InstanceOperator
