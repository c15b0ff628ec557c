import InstanceOperator.Object.Labels
import InstanceOperator.Object.PodShape
import InstanceOperator.Time.Timestamp

/-!
# Object metadata

What every object of the cluster carries: its name and namespace, its labels, its owners, and the
bookkeeping of the cluster itself.
-/

namespace InstanceOperator

/-- A reference from an object to one that owns it. -/
structure OwnerReference where
  apiVersion : String := ""
  kind : String := ""
  name : String := ""
  uid : String := ""
  /-- Whether the owner is the one that manages the object. -/
  controller : Option Bool := none
  /-- Whether deletion of the owner waits for the object. -/
  blockOwnerDeletion : Option Bool := none
deriving DecidableEq

namespace OwnerReference

def ofJson? : Json → Option OwnerReference
  | .obj ms => do
    return {
      apiVersion := ← Json.required Json.str? "" "apiVersion" ms
      blockOwnerDeletion := ← Json.optional Json.bool? "blockOwnerDeletion" ms
      controller := ← Json.optional Json.bool? "controller" ms
      kind := ← Json.required Json.str? "" "kind" ms
      name := ← Json.required Json.str? "" "name" ms
      uid := ← Json.required Json.str? "" "uid" ms }
  | _ => none

def toJson (o : OwnerReference) : Json :=
  Json.ofMembers
    [("apiVersion", some (.str o.apiVersion)),
     ("blockOwnerDeletion", o.blockOwnerDeletion.map .bool),
     ("controller", o.controller.map .bool),
     ("kind", some (.str o.kind)),
     ("name", some (.str o.name)),
     ("uid", some (.str o.uid))]

end OwnerReference

structure Metadata where
  annotations : Option Labels := none
  creationTimestamp : Option Timestamp := none
  deletionGracePeriodSeconds : Option Int64 := none
  deletionTimestamp : Option Timestamp := none
  finalizers : Option (List String) := none
  generateName : Option String := none
  generation : Option Int64 := none
  labels : Option Labels := none
  /-- Who manages which fields, in the form of `Shape.managedFields`. -/
  managedFields : Option (List Json) := none
  name : Option String := none
  ns : Option String := none
  ownerReferences : Option (List OwnerReference) := none
  resourceVersion : Option String := none
  selfLink : Option String := none
  uid : Option String := none
deriving DecidableEq

namespace Metadata

def timestamp? (j : Json) : Option Timestamp :=
  j.str?.bind Timestamp.read?

def ofJson? : Json → Option Metadata
  | .obj ms => do
    return {
      annotations := ← Json.optional Labels.ofJson? "annotations" ms
      creationTimestamp := ← Json.optional timestamp? "creationTimestamp" ms
      deletionGracePeriodSeconds := ← Json.optional Json.int64? "deletionGracePeriodSeconds" ms
      deletionTimestamp := ← Json.optional timestamp? "deletionTimestamp" ms
      finalizers := ← Json.optional (Json.list? Json.str?) "finalizers" ms
      generateName := ← Json.optional Json.str? "generateName" ms
      generation := ← Json.optional Json.int64? "generation" ms
      labels := ← Json.optional Labels.ofJson? "labels" ms
      managedFields :=
        ← Json.optional (Json.list? (Shape.read Shape.managedFields)) "managedFields" ms
      name := ← Json.optional Json.str? "name" ms
      ns := ← Json.optional Json.str? "namespace" ms
      ownerReferences := ← Json.optional (Json.list? OwnerReference.ofJson?) "ownerReferences" ms
      resourceVersion := ← Json.optional Json.str? "resourceVersion" ms
      selfLink := ← Json.optional Json.str? "selfLink" ms
      uid := ← Json.optional Json.str? "uid" ms }
  | _ => none

def toJson (m : Metadata) : Json :=
  Json.ofMembers
    [("annotations", m.annotations.map Labels.toJson),
     ("creationTimestamp", m.creationTimestamp.map fun t => .str t.text),
     ("deletionGracePeriodSeconds", m.deletionGracePeriodSeconds.map Json.ofInt64),
     ("deletionTimestamp", m.deletionTimestamp.map fun t => .str t.text),
     ("finalizers", m.finalizers.map fun fs => .arr (fs.map .str)),
     ("generateName", Json.ofStr? m.generateName),
     ("generation", m.generation.map Json.ofInt64),
     ("labels", m.labels.map Labels.toJson),
     ("managedFields", m.managedFields.map .arr),
     ("name", Json.ofStr? m.name),
     ("namespace", Json.ofStr? m.ns),
     ("ownerReferences", m.ownerReferences.map fun os => .arr (os.map OwnerReference.toJson)),
     ("resourceVersion", Json.ofStr? m.resourceVersion),
     ("selfLink", Json.ofStr? m.selfLink),
     ("uid", Json.ofStr? m.uid)]

/-- The name of the object; while it has none, the beginning that its name is to have, if any. -/
def nameAny (m : Metadata) : String :=
  (m.name <|> m.generateName).getD ""

end Metadata

end InstanceOperator
