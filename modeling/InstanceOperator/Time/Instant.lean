import InstanceOperator.Time.Duration

/-!
# Readings of a clock

A reading of a clock that never goes back: whole seconds from an origin that means nothing, for
which there are 64 bits including the sign, and nanoseconds beyond them. The reading that a clock
will have later need not exist.
-/

namespace InstanceOperator

/-- The end of the range of whole seconds, two to the power of 63. -/
def Instant.limit : Int := 9223372036854775808

/-- A reading of a clock. -/
structure Instant where
  /-- Whole seconds. -/
  secs : Int
  /-- Nanoseconds beyond the whole seconds. -/
  nanos : Nat
  le_secs : -Instant.limit ≤ secs := by decide
  secs_lt : secs < Instant.limit := by decide
  nanos_lt : nanos < nanosPerSecond := by decide

namespace Instant

theorem limit_pos : 0 < limit := by
  decide

theorem neg_limit_le_zero : -limit ≤ 0 :=
  Int.le_of_lt (Int.neg_neg_of_pos limit_pos)

/-- The reading zero. -/
def origin : Instant where
  secs := 0
  nanos := 0
  le_secs := neg_limit_le_zero
  secs_lt := limit_pos
  nanos_lt := Duration.nanosPerSecond_pos

/-- The reading in nanoseconds. -/
def toNanos (t : Instant) : Int :=
  t.secs * nanosPerSecond + t.nanos

/-- Time that is added does not lead below the range. -/
theorem le_secs_add (t : Instant) (n : Nat) : -limit ≤ t.secs + n := by
  have hle := t.le_secs
  omega

/-- The reading after a span of time, if there is one. Seconds and nanoseconds are added apart and a
second is carried over. -/
def after? (t : Instant) (d : Duration) : Option Instant :=
  let carry := (t.nanos + d.nanos) / nanosPerSecond
  if h : t.secs + (d.secs + carry : Nat) < limit then
    some
      { secs := t.secs + (d.secs + carry : Nat)
        nanos := (t.nanos + d.nanos) % nanosPerSecond
        le_secs := t.le_secs_add _
        secs_lt := h
        nanos_lt := Nat.mod_lt _ Duration.nanosPerSecond_pos }
  else none

/-- The reading a number of milliseconds after zero, if there is one. -/
def ofMillis? (millis : Nat) : Option Instant :=
  origin.after? (Duration.ofMillis millis)

/-- The reading in milliseconds after zero, a part of one counting as a whole. -/
def toMillis (t : Instant) : Nat :=
  (t.toNanos.toNat + 999999) / 1000000

end Instant

end InstanceOperator
