/-!
# Spans of time

A span of whole seconds and nanoseconds, up to the greatest that 64 bits of seconds hold. Its text
uses the largest unit of seconds, milliseconds, microseconds and nanoseconds that is not above it,
with as many decimals as the value needs.
-/

namespace InstanceOperator

/-- Nanoseconds in a second. -/
def nanosPerSecond : Nat := 1000000000

/-- A span of time. -/
structure Duration where
  /-- Whole seconds. -/
  secs : Nat
  /-- Nanoseconds beyond the whole seconds. -/
  nanos : Nat
  secs_lt : secs < UInt64.size := by decide
  nanos_lt : nanos < nanosPerSecond := by decide
deriving DecidableEq

namespace Duration

theorem nanosPerSecond_pos : 0 < nanosPerSecond := by
  decide

/-- No time at all. -/
def zero : Duration := { secs := 0, nanos := 0 }

/-- The longest span. -/
def longest : Duration := { secs := UInt64.size - 1, nanos := nanosPerSecond - 1 }

/-- The span in nanoseconds. -/
def toNanos (d : Duration) : Nat :=
  d.secs * nanosPerSecond + d.nanos

/-- The span of a number of nanoseconds, or the longest span if it does not fit. -/
def ofNanos (n : Nat) : Duration :=
  if h : n / nanosPerSecond < UInt64.size then
    { secs := n / nanosPerSecond
      nanos := n % nanosPerSecond
      secs_lt := h
      nanos_lt := Nat.mod_lt _ nanosPerSecond_pos }
  else longest

/-- A span of seconds and nanoseconds, if both are in range. -/
def ofParts? (secs nanos : Nat) : Option Duration :=
  if h : secs < UInt64.size ∧ nanos < nanosPerSecond then
    some { secs, nanos, secs_lt := h.1, nanos_lt := h.2 }
  else none

/-- A span of whole seconds. -/
def ofSecs (secs : Nat) : Duration :=
  ofNanos (secs * nanosPerSecond)

/-- A span of whole milliseconds. -/
def ofMillis (millis : Nat) : Duration :=
  ofNanos (millis * 1000000)

/-- The span in milliseconds, a part of one counting as a whole. -/
def toMillis (d : Duration) : Nat :=
  (d.toNanos + 999999) / 1000000

/-- The shorter of two spans. -/
def shorter (a b : Duration) : Duration :=
  if a.toNanos ≤ b.toNanos then a else b

/-- Twice the span: seconds and nanoseconds are doubled apart and a second is carried over. A
result that does not fit is the longest span. -/
def double (d : Duration) : Duration :=
  let carry := d.nanos * 2 / nanosPerSecond
  if h : d.secs * 2 + carry < UInt64.size then
    { secs := d.secs * 2 + carry
      nanos := d.nanos * 2 % nanosPerSecond
      secs_lt := h
      nanos_lt := Nat.mod_lt _ nanosPerSecond_pos }
  else longest

/-! ## Text -/

/-- The decimals of `n / 10 ^ places` without trailing zeros, with the point in front. -/
def fractionText (places n : Nat) : String :=
  if n = 0 then ""
  else
    let digits := Nat.toDigits 10 n
    let padded := List.replicate (places - digits.length) '0' ++ digits
    String.ofList ('.' :: (padded.reverse.dropWhile (· == '0')).reverse)

/-- The text of a span: its value in the unit that suits it. -/
def text (d : Duration) : String :=
  if 0 < d.secs then toString d.secs ++ fractionText 9 d.nanos ++ "s"
  else if 1000000 ≤ d.nanos then
    toString (d.nanos / 1000000) ++ fractionText 6 (d.nanos % 1000000) ++ "ms"
  else if 1000 ≤ d.nanos then
    toString (d.nanos / 1000) ++ fractionText 3 (d.nanos % 1000) ++ "µs"
  else toString d.nanos ++ "ns"

end Duration

end InstanceOperator
