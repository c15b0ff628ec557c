import InstanceOperator.Registry
import InstanceOperator.Retry.Backoff

/-!
# Tracking failures

For every key that fails, the delays still to come and the number of failures in a row. A key that
has not failed, or has succeeded since, is not held.
-/

namespace InstanceOperator

/-- What is held for a failing key. -/
structure Failing where
  backoff : Backoff
  /-- Failures in a row; the count stays at its greatest value once there. -/
  attempts : Nat
deriving DecidableEq

/-- The greatest count of failures in a row. -/
def attemptsLimit : Nat := UInt32.size - 1

/-- The failing keys, with the first and the greatest delay for all of them. -/
structure Tracker where
  min : Duration
  max : Duration
  failing : Registry String Failing := Registry.empty
deriving DecidableEq

namespace Tracker

/-- What a key that is not held starts from. -/
def fresh (t : Tracker) : Failing where
  backoff := Backoff.start t.min t.max
  attempts := 0

/-- What is known of a key. -/
def state (t : Tracker) (key : String) : Failing :=
  (t.failing.get? key).getD t.fresh

def reset (t : Tracker) (key : String) : Tracker :=
  { t with failing := t.failing.erase key }

/-- How long to wait after a further failure of a key. -/
def nextDelay (t : Tracker) (key : String) : Duration :=
  (t.state key).backoff.current

/-- The failures in a row of a key, a further one included. -/
def nextAttempt (t : Tracker) (key : String) : Nat :=
  Nat.min ((t.state key).attempts + 1) attemptsLimit

def fail (t : Tracker) (key : String) : Tracker :=
  { t with
    failing := t.failing.insert key ⟨(t.state key).backoff.advance, t.nextAttempt key⟩ }

end Tracker

end InstanceOperator
