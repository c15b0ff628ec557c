import InstanceOperator.Config.Basic
import InstanceOperator.Desired.Identity
import InstanceOperator.Store.Error

/-!
# Errors of the operator

Why a pass, or the operator as a whole, fails, and whether another attempt may succeed.
-/

namespace InstanceOperator

/-- What can go wrong with the registry of metrics. -/
inductive MetricsError where
  | described (reason : String)
  | alreadyRegistered
  | labelCount (expected got : Nat)
deriving DecidableEq, Repr

def MetricsError.message : MetricsError → String
  | .described reason => "Error: " ++ reason
  | .alreadyRegistered => "Duplicate metrics collector registration attempted"
  | .labelCount expected got =>
    "Inconsistent label cardinality, expect " ++ toString expected ++ " label values, but got "
      ++ toString got

inductive OperatorError where
  /-- The client failed outside of a pass. -/
  | client (cause : ClientError)
  /-- The instance could not be fetched. -/
  | store (source : StoreError)
  /-- A dependent could not be looked up. -/
  | lookup (kind : Kind) (name : String) (source : StoreError)
  /-- A missing dependent could not be created. -/
  | create (kind : Kind) (name : String) (source : StoreError)
  /-- No dependents can be derived from the instance. -/
  | malformed (cause : Malformed)
  | config (fault : ConfigFault)
  | metrics (cause : MetricsError)
  | io (reason : String)
  | watch (reason : String)
deriving DecidableEq, Repr

namespace OperatorError

def message : OperatorError → String
  | .client cause => "Kubernetes error: " ++ cause.message
  | .store source => "Store error: " ++ source.message
  | .lookup kind name source =>
    "Failed to look up " ++ kind.name ++ " " ++ name ++ ": " ++ source.message
  | .create kind name source =>
    "Failed to create " ++ kind.name ++ " " ++ name ++ ": " ++ source.message
  | .malformed cause => "Malformed desired state: " ++ cause.message
  | .config fault => "Invalid configuration: " ++ fault.message
  | .metrics cause => "Metrics error: " ++ cause.message
  | .io reason => "I/O error: " ++ reason
  | .watch reason => "Resource watch failed: " ++ reason

/-- Whether another attempt may succeed. What the instance itself causes, and what the store refuses
for good, fails again until the instance changes. -/
def isRetryable : OperatorError → Bool
  | .malformed _ => false
  | .config _ => false
  | .store source => source.isTransient
  | .lookup _ _ source => source.isTransient
  | .create _ _ source => source.isTransient
  | _ => true

end OperatorError

end InstanceOperator
