import InstanceOperator.Time.Instant
import Mathlib.Algebra.Ring.Int.Defs
import Mathlib.Algebra.Ring.Nat

/-!
# Readings of a clock as numbers

A reading is its number of nanoseconds. The reading after a span of time is the sum of the two
numbers, and it exists exactly if that is within the range of the clock.
-/

namespace InstanceOperator.Instant

variable {t u : Instant} {d : Duration}

/-- Readings are what is below the end of the range. -/
theorem toNanos_lt (t : Instant) : t.toNanos < limit * nanosPerSecond := by
  have hsecs := t.secs_lt
  have hnanos := t.nanos_lt
  simp only [toNanos, nanosPerSecond] at hnanos ⊢
  omega

/-- A later reading is later by the span, exactly. -/
theorem toNanos_of_after? (h : t.after? d = some u) : u.toNanos = t.toNanos + d.toNanos := by
  unfold after? at h
  dsimp only at h
  split at h
  · cases h
    have hsplit := Nat.div_add_mod (t.nanos + d.nanos) nanosPerSecond
    simp only [toNanos, Duration.toNanos, nanosPerSecond] at hsplit ⊢
    omega
  · cases h

/-- There is a later reading exactly if the sum is within the range. -/
theorem exists_after?_iff :
    (∃ u, t.after? d = some u) ↔ t.toNanos + d.toNanos < limit * nanosPerSecond := by
  constructor
  · rintro ⟨u, h⟩
    rw [← toNanos_of_after? h]
    exact u.toNanos_lt
  · intro h
    have hfits : t.secs + (d.secs + (t.nanos + d.nanos) / nanosPerSecond : Nat) < limit := by
      simp only [toNanos, Duration.toNanos, nanosPerSecond] at h ⊢
      omega
    unfold after?
    exact ⟨_, dif_pos hfits⟩

/-- A clock in the lower half of the range has the reading after a span of whole seconds exactly if
the span is not above half the range. -/
theorem forall_exists_after?_iff (hd : ∃ n, d.toNanos = n * nanosPerSecond) :
    (∀ now : Instant, now.secs < 2 ^ 62 → ∃ u, now.after? d = some u) ↔
      d.toNanos ≤ 2 ^ 62 * nanosPerSecond := by
  simp only [exists_after?_iff]
  constructor
  · intro h
    -- the last whole second of the lower half decides
    have hlast := h { secs := 2 ^ 62 - 1, nanos := 0 } (by decide)
    obtain ⟨n, hn⟩ := hd
    simp only [toNanos, limit, nanosPerSecond] at hn hlast ⊢
    omega
  · intro h now hnow
    -- whole seconds carry nothing over, so that the nanoseconds of the reading still fit
    have hnanos := now.nanos_lt
    simp only [toNanos, limit, nanosPerSecond] at h hnanos ⊢
    omega

end InstanceOperator.Instant
