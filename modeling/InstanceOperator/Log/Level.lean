/-!
# Levels of the log

How urgent a line of the log is.
-/

namespace InstanceOperator

/-- How urgent a line is. -/
inductive Level where
  | error | warn | info
deriving DecidableEq, Repr

namespace Level

def name : Level → String
  | .error => "ERROR"
  | .warn => "WARN"
  | .info => "INFO"

/-- The urgency of a level as a number; the smaller, the more urgent. -/
def rank : Level → Nat
  | .error => 1
  | .warn => 2
  | .info => 3

end Level

end InstanceOperator
