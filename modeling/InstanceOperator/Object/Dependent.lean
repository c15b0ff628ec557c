import InstanceOperator.Object.Ingress
import InstanceOperator.Object.Kind

/-!
# Dependents

An object that belongs to an instance: a deployment, a service or an ingress.
-/

namespace InstanceOperator

inductive Dependent where
  | deployment (d : Deployment)
  | service (s : Service)
  | ingress (i : Ingress)
deriving DecidableEq

namespace Dependent

def kind : Dependent → Kind
  | .deployment _ => .deployment
  | .service _ => .service
  | .ingress _ => .ingress

def metadata : Dependent → Metadata
  | .deployment d => d.metadata
  | .service s => s.metadata
  | .ingress i => i.metadata

/-- The key of a dependent; a part that its metadata lacks is empty. -/
def key (d : Dependent) : ObjectKey :=
  ⟨d.metadata.ns.getD "", d.metadata.name.getD ""⟩

def owners (d : Dependent) : List OwnerReference :=
  d.metadata.ownerReferences.getD []

/-- How logs and errors name a dependent. -/
def describe (d : Dependent) : String :=
  d.kind.name ++ " " ++ d.key.text

def ofJson? (k : Kind) (j : Json) : Option Dependent :=
  match k with
  | .deployment => (Deployment.ofJson? j).map .deployment
  | .service => (Service.ofJson? j).map .service
  | .ingress => (Ingress.ofJson? j).map .ingress

def toJson : Dependent → Json
  | .deployment d => d.toJson
  | .service s => s.toJson
  | .ingress i => i.toJson

end Dependent

/-- The key of a namespaced object, if it has a namespace. -/
def ObjectKey.ofMetadata? (m : Metadata) : Option ObjectKey :=
  m.ns.map fun ns => ⟨ns, m.nameAny⟩

end InstanceOperator
