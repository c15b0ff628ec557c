import InstanceOperator.Crd.Schema
import InstanceOperator.Object.Instance
import InstanceOperator.Yaml.Writer

/-!
# The definition of the custom resource

What the cluster is told about instances: their names, their one version, and the schema that it
checks them against.
-/

namespace InstanceOperator.Crd

def specSchema : Schema :=
  .object
    { description := some
        "IntermineInstanceSpec defines the desired state of an InterMine instance" }
    [("foo", .string
        { description := some "Placeholder configuration field, omitted when empty" })]
    []

def statusSchema : Schema :=
  .object
    { description := some
        ("IntermineInstanceStatus defines the observed state of an InterMine instance\n\n"
          ++ "Reserved for convergence reporting; the controller does not write it yet.")
      nullable := true }
    [] []

def instanceSchema : Schema :=
  .object
    { title := some instanceKind
      description := some
        "Auto-generated derived type for IntermineInstanceSpec via `CustomResource`" }
    [("spec", specSchema), ("status", statusSchema)]
    ["spec"]

/-- The name of one instance, in lower case. -/
def singular : String := "intermineinstance"

/-- The short name of instances. -/
def shortName : String := "imi"

def names : Json :=
  .obj
    [("categories", .arr []), ("kind", .str instanceKind), ("plural", .str instancePlural),
     ("shortNames", .arr [.str shortName]), ("singular", .str singular)]

/-- The one version of the custom resource. -/
def version : Json :=
  .obj
    [("additionalPrinterColumns", .arr []), ("name", .str instanceVersion),
     ("schema", .obj [("openAPIV3Schema", instanceSchema.toJson)]), ("served", .bool true),
     ("storage", .bool true), ("subresources", .obj [("status", .obj [])])]

/-- The definition as an object of the cluster. -/
def definition : Json :=
  .obj
    [("apiVersion", .str "apiextensions.k8s.io/v1"), ("kind", .str "CustomResourceDefinition"),
     ("metadata", .obj [("name", .str (instancePlural ++ "." ++ apiGroup))]),
     ("spec", .obj
       [("group", .str apiGroup), ("names", names), ("scope", .str "Namespaced"),
        ("versions", .arr [version])])]

def manifest : String :=
  Yaml.write definition

end InstanceOperator.Crd
