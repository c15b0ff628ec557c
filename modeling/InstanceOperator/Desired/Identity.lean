import InstanceOperator.Name.Dns
import InstanceOperator.Object.Instance

/-!
# Identity of an instance

What the dependents of an instance are called after: its name, its namespace and its unique
identifier. An instance that lacks one of them, or whose name does not yield valid names for all
three dependents, is malformed.
-/

namespace InstanceOperator

/-- Why no dependents can be derived from an instance. -/
inductive Malformed where
  | noName
  | noNamespace (name : String)
  | noUid (key : ObjectKey)
  | badName (kind : Kind) (name : String)
  /-- The instance belongs to no namespace, so no pass can be made for it. -/
  | unplaced (name : Option String)
  /-- A reason given in words. -/
  | described (reason : String)
deriving DecidableEq, Repr

def Malformed.message : Malformed → String
  | .noName => "instance has no name"
  | .noNamespace name => "instance " ++ name ++ " has no namespace"
  | .noUid key => "instance " ++ key.text ++ " has no uid"
  | .badName kind name => kind.name ++ " name '" ++ name ++ "' is not a valid object name"
  | .unplaced name => instanceKind ++ " " ++ name.getD "<unnamed>" ++ " has no namespace"
  | .described reason => reason

/-- Whether the cluster accepts a name for an object of a kind. -/
def Kind.acceptsName : Kind → String → Bool
  | .service, name => Dns.isLabel name
  | .deployment, name => Dns.isSubdomain name
  | .ingress, name => Dns.isSubdomain name

structure Identity where
  name : String
  ns : String
  uid : String
deriving DecidableEq, Repr

namespace Identity

/-- A text that is given and not empty. -/
def nonempty (s : Option String) : Option String :=
  s.filter (· ≠ "")

/-- The first kind whose dependent would get a name that is not valid. -/
def rejectedKind? (instanceName : String) : Option Kind :=
  Kind.ordered.find? fun k => !k.acceptsName (dependentName instanceName k)

/-- The key of the dependent of a kind. -/
def key (i : Identity) (kind : Kind) : ObjectKey :=
  ⟨i.ns, dependentName i.name kind⟩

end Identity

end InstanceOperator
