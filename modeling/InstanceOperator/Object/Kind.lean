/-!
# Kinds and keys

The three kinds of object that an instance implies, in the order in which they are brought about,
and the namespaced names that objects go by.
-/

namespace InstanceOperator

inductive Kind where
  | deployment
  | service
  | ingress
deriving DecidableEq, Repr

namespace Kind

/-- The order of convergence: a pass never touches a kind before every earlier one exists. -/
def ordered : List Kind := [.deployment, .service, .ingress]

def name : Kind → String
  | .deployment => "Deployment"
  | .service => "Service"
  | .ingress => "Ingress"

def ofName? (s : String) : Option Kind :=
  ordered.find? fun k => k.name = s

/-- What the name of a dependent adds to the name of its instance. -/
def suffix : Kind → String
  | .deployment => "-deployment"
  | .service => "-service"
  | .ingress => "-ingress"

/-- The place of a kind in the order of convergence. -/
def index : Kind → Nat
  | .deployment => 0
  | .service => 1
  | .ingress => 2

/-- The path below which a group and version are served. -/
def apiPath : Kind → String
  | .deployment => "/apis/apps/v1"
  | .service => "/api/v1"
  | .ingress => "/apis/networking.k8s.io/v1"

/-- The name of a kind's collection in a path. -/
def plural : Kind → String
  | .deployment => "deployments"
  | .service => "services"
  | .ingress => "ingresses"

end Kind

/-- The name of the dependent of a kind that belongs to an instance. -/
def dependentName (instanceName : String) (kind : Kind) : String :=
  instanceName ++ kind.suffix

/-- One value for each kind. -/
structure PerKind (α : Type) where
  deployment : α
  service : α
  ingress : α
deriving DecidableEq, Repr

namespace PerKind

variable {α : Type}

/-- The same value for every kind. -/
def const (a : α) : PerKind α := ⟨a, a, a⟩

def get (p : PerKind α) : Kind → α
  | .deployment => p.deployment
  | .service => p.service
  | .ingress => p.ingress

def set (p : PerKind α) (k : Kind) (a : α) : PerKind α :=
  match k with
  | .deployment => { p with deployment := a }
  | .service => { p with service := a }
  | .ingress => { p with ingress := a }

@[simp] theorem get_const (a : α) (k : Kind) : (const a).get k = a := by cases k <;> rfl

/-- Replacing the value of one kind leaves those of the others. -/
theorem get_set (p : PerKind α) (k l : Kind) (a : α) :
    (p.set k a).get l = if k = l then a else p.get l := by
  cases k <;> cases l <;> rfl

end PerKind

/-- The name of an object within its namespace. -/
structure ObjectKey where
  /-- The namespace. -/
  ns : String
  /-- The name within the namespace. -/
  name : String
deriving DecidableEq, Repr

namespace ObjectKey

/-- The written form of a key. -/
def text (k : ObjectKey) : String :=
  k.ns ++ "/" ++ k.name

/-- Keys are ordered by namespace and then by name. -/
def before (a b : ObjectKey) : Bool :=
  a.ns < b.ns || (a.ns == b.ns && a.name < b.name)

/-- Put a key into a sorted list that does not hold it yet. -/
def insertSorted (k : ObjectKey) : List ObjectKey → List ObjectKey
  | [] => [k]
  | l :: ls =>
    if k = l then l :: ls else if k.before l then k :: l :: ls else l :: insertSorted k ls

/-- The keys of a list, each once, in order. -/
def sortedDistinct (ks : List ObjectKey) : List ObjectKey :=
  ks.foldl (fun sorted k => insertSorted k sorted) []

end ObjectKey

end InstanceOperator
