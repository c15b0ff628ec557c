import InstanceOperator.Object.Dependent

/-!
# Instances

The custom resource whose instances the operator serves. Unlike the cluster's own objects it must
have its metadata and its specification, and its parts can also be given by position, as arrays.
-/

namespace InstanceOperator

def apiGroup : String := "intermine.intermine.org"

def instanceVersion : String := "v1alpha1"

def instanceKind : String := "IntermineInstance"

/-- Group and version of the custom resource. -/
def instanceApiVersion : String := apiGroup ++ "/" ++ instanceVersion

/-- The name of the custom resource's collection in a path. -/
def instancePlural : String := "intermineinstances"

/-- The path below which the custom resource is served. -/
def instanceApiPath : String := "/apis/" ++ instanceApiVersion

/-- What an instance asks for. -/
structure InstanceSpec where
  /-- A placeholder, left out in writing when empty. -/
  foo : String := ""
deriving DecidableEq

/-- What is observed about an instance; nothing so far. -/
structure InstanceStatus where
deriving DecidableEq

structure Instance where
  metadata : Metadata
  spec : InstanceSpec := {}
  status : Option InstanceStatus := none
deriving DecidableEq

namespace InstanceSpec

/-- Read a specification, from members or by position. -/
def ofJson? : Json → Option InstanceSpec
  | .obj ms =>
    match Json.single? "foo" ms with
    | some none => some {}
    | some (some (.str s)) => some { foo := s }
    | _ => none
  | .arr [] => some {}
  | .arr [.str s] => some { foo := s }
  | _ => none

def toJson (s : InstanceSpec) : Json :=
  Json.ofMembers [("foo", if s.foo = "" then none else some (.str s.foo))]

end InstanceSpec

namespace InstanceStatus

def ofJson? : Json → Option InstanceStatus
  | .obj _ => some {}
  | .arr [] => some {}
  | _ => none

def toJson (_ : InstanceStatus) : Json := .obj []

end InstanceStatus

namespace Instance

/-- Read the status part of an instance, which may be `null`. -/
def status? : Json → Option (Option InstanceStatus)
  | .null => some none
  | j => (InstanceStatus.ofJson? j).map some

/-- Read an instance, from members or by position. -/
def ofJson? : Json → Option Instance
  | .obj ms => do
    let metadata ← (← (← Json.single? "metadata" ms).map Metadata.ofJson?)
    let spec ← (← (← Json.single? "spec" ms).map InstanceSpec.ofJson?)
    let status ← status? ((← Json.single? "status" ms).getD .null)
    return ⟨metadata, spec, status⟩
  | .arr [m, s, t] => do
    return {
      metadata := ← Metadata.ofJson? m
      spec := ← InstanceSpec.ofJson? s
      status := ← status? t }
  | _ => none

def toJson (i : Instance) : Json :=
  Json.ofMembers
    [("apiVersion", some (.str instanceApiVersion)), ("kind", some (.str instanceKind)),
     ("metadata", some i.metadata.toJson), ("spec", some i.spec.toJson),
     ("status", i.status.map InstanceStatus.toJson)]

/-- The key of an instance, if it has a namespace. -/
def key? (i : Instance) : Option ObjectKey :=
  ObjectKey.ofMetadata? i.metadata

end Instance

end InstanceOperator
