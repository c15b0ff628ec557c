import InstanceOperator.Time.Duration

/-!
# Exponential backoff

The delays between the attempts of a pass that keeps failing: each is twice the one before, up to a
greatest one.
-/

namespace InstanceOperator

/-- Where a sequence of growing delays stands. -/
structure Backoff where
  /-- The delay that comes next. -/
  current : Duration
  /-- The greatest delay. -/
  max : Duration
deriving DecidableEq

namespace Backoff

/-- A sequence that begins with `min` and ends at `max`. -/
def start (min max : Duration) : Backoff where
  current := min.shorter max
  max := max

/-- The sequence behind its first delay. -/
def advance (b : Backoff) : Backoff where
  current := b.current.double.shorter b.max
  max := b.max

/-- The first `n` delays of a sequence. -/
def delays (b : Backoff) : Nat → List Duration
  | 0 => []
  | n + 1 => b.current :: b.advance.delays n

end Backoff

end InstanceOperator
