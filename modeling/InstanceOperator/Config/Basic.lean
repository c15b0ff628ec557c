import InstanceOperator.Drift.Policy
import InstanceOperator.Text.Natural
import InstanceOperator.Time.Duration

/-!
# Configuration

The settings of the operator, their defaults, and the reasons for which a configuration is refused.
-/

namespace InstanceOperator

/-- The settings of the operator. -/
structure Config where
  /-- The namespace to serve; all of them if absent. -/
  ns : Option String := none
  /-- How many passes may run at once. -/
  concurrency : UInt16 := 3
  /-- How long a triggered pass waits for further triggers. -/
  debounce : Duration := Duration.ofMillis 0
  /-- How long one pass may take. -/
  passTimeout : Duration := Duration.ofSecs 30
  /-- The first delay after a failed pass. -/
  backoffMin : Duration := Duration.ofSecs 5
  /-- The greatest delay after a failed pass. -/
  backoffMax : Duration := Duration.ofSecs 300
  driftPolicy : DriftPolicy := .ignore
  /-- The port on which metrics and probes are served. -/
  metricsPort : UInt16 := 8080
deriving DecidableEq

/-- A setting that is given by a variable of the environment. -/
inductive Setting where
  | ns | concurrency | debounce | passTimeout | backoffMin | backoffMax | driftPolicy | metricsPort
deriving DecidableEq, Repr

/-- The name of a setting's variable. -/
def Setting.name : Setting → String
  | .ns => "WATCH_NAMESPACE"
  | .concurrency => "RECONCILE_CONCURRENCY"
  | .debounce => "DEBOUNCE_MILLIS"
  | .passTimeout => "PASS_TIMEOUT_SECS"
  | .backoffMin => "BACKOFF_MIN_SECS"
  | .backoffMax => "BACKOFF_MAX_SECS"
  | .driftPolicy => "DRIFT_POLICY"
  | .metricsPort => "METRICS_PORT"

def Setting.all : List Setting :=
  [.ns, .concurrency, .debounce, .passTimeout, .backoffMin, .backoffMax, .driftPolicy,
   .metricsPort]

/-! ## Refusals -/

/-- Why the text of a setting has no value. -/
inductive ValueFault where
  | number (fault : Text.NumberFault)
  | policy (raw : String)
deriving DecidableEq, Repr

def ValueFault.message : ValueFault → String
  | .number fault => fault.message
  | .policy raw => DriftPolicy.refusal raw

/-- Why a configuration is refused. -/
inductive ConfigFault where
  /-- The text of a setting does not read. -/
  | badValue (setting : Setting) (raw : String) (fault : ValueFault)
  /-- A setting is zero that must not be. -/
  | zero (setting : Setting)
  /-- The greatest delay, in seconds, is below the first one. -/
  | backoffOrder (max min : Nat)
  /-- A reason given in words. -/
  | described (reason : String)
deriving DecidableEq, Repr

def ConfigFault.message : ConfigFault → String
  | .badValue setting raw fault =>
    setting.name ++ " has invalid value '" ++ raw ++ "': " ++ fault.message
  | .zero setting => setting.name ++ " must be at least 1"
  | .backoffOrder max min =>
    Setting.backoffMax.name ++ " (" ++ toString max ++ ") is smaller than "
      ++ Setting.backoffMin.name ++ " (" ++ toString min ++ ")"
  | .described reason => reason

end InstanceOperator
