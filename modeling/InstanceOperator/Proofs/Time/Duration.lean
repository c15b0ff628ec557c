import InstanceOperator.Time.Duration

/-!
# Spans of time as numbers

A span is its number of nanoseconds: different spans have different numbers, and the spans that are
made of seconds or milliseconds have the number that one expects, as long as their count is one of
64 bits. The shorter of two spans is the one with the smaller number. A span is doubled by doubling
its number, up to the number of the longest span.
-/

namespace InstanceOperator.Duration

theorem secs_eq (d : Duration) : d.secs = d.toNanos / nanosPerSecond := by
  have hlt := d.nanos_lt
  rw [toNanos, Nat.mul_comm, Nat.mul_add_div nanosPerSecond_pos, Nat.div_eq_of_lt hlt,
    Nat.add_zero]

theorem nanos_eq (d : Duration) : d.nanos = d.toNanos % nanosPerSecond := by
  rw [toNanos, Nat.mul_comm, Nat.mul_add_mod, Nat.mod_eq_of_lt d.nanos_lt]

/-- A span is known by its number of nanoseconds. -/
theorem toNanos_inj {a b : Duration} : a.toNanos = b.toNanos ↔ a = b := by
  constructor
  · intro h
    have hsecs : a.secs = b.secs := by
      rw [secs_eq, secs_eq, h]
    have hnanos : a.nanos = b.nanos := by
      rw [nanos_eq, nanos_eq, h]
    cases a
    cases b
    cases hsecs
    cases hnanos
    rfl
  · rintro rfl
    rfl

/-- A number of nanoseconds in range is the number of its span. -/
theorem toNanos_ofNanos {n : Nat} (h : n < UInt64.size * nanosPerSecond) :
    (ofNanos n).toNanos = n := by
  have hsecs : n / nanosPerSecond < UInt64.size := (Nat.div_lt_iff_lt_mul nanosPerSecond_pos).2 h
  rw [ofNanos, dif_pos hsecs]
  exact Nat.div_add_mod' n nanosPerSecond

theorem toNanos_ofSecs {n : Nat} (h : n < UInt64.size) :
    (ofSecs n).toNanos = n * nanosPerSecond :=
  toNanos_ofNanos (Nat.mul_lt_mul_of_pos_right h nanosPerSecond_pos)

theorem toNanos_ofMillis {n : Nat} (h : n < UInt64.size) : (ofMillis n).toNanos = n * 1000000 := by
  apply toNanos_ofNanos
  calc n * 1000000 ≤ n * nanosPerSecond := Nat.mul_le_mul_left n (by decide)
    _ < UInt64.size * nanosPerSecond := Nat.mul_lt_mul_of_pos_right h nanosPerSecond_pos

theorem eq_zero_iff {d : Duration} : d = zero ↔ d.toNanos = 0 := by
  rw [← toNanos_inj]
  rfl

/-! ## Whole seconds -/

section whole

variable {d : Duration}

theorem toNanos_of_nanos_eq_zero (h : d.nanos = 0) : d.toNanos = d.secs * nanosPerSecond := by
  rw [toNanos, h, Nat.add_zero]

/-- Spans of whole seconds are compared by their seconds. -/
theorem toNanos_lt_iff {n : Nat} (h : d.nanos = 0) :
    d.toNanos < n * nanosPerSecond ↔ d.secs < n := by
  rw [toNanos_of_nanos_eq_zero h, Nat.mul_lt_mul_right nanosPerSecond_pos]

/-- A span of whole seconds has no nanoseconds beyond them. -/
theorem nanos_eq_zero_of_whole (h : ∃ n, d.toNanos = n * nanosPerSecond) : d.nanos = 0 := by
  rcases h with ⟨n, hn⟩
  rw [nanos_eq, hn, Nat.mul_mod_left]

end whole

/-! ## Comparing and doubling -/

/-- No span is longer than the longest. -/
theorem toNanos_le_longest (d : Duration) : d.toNanos ≤ longest.toNanos := by
  have hsecs := d.secs_lt
  have hnanos := d.nanos_lt
  simp only [toNanos, longest, nanosPerSecond, UInt64.size] at hsecs hnanos ⊢
  omega

/-- The shorter span has the smaller number. -/
theorem toNanos_shorter (a b : Duration) : (a.shorter b).toNanos = min a.toNanos b.toNanos := by
  unfold shorter
  split <;> omega

/-- Doubling a span doubles its number, unless the result is no span. -/
theorem toNanos_double (d : Duration) : d.double.toNanos = min (2 * d.toNanos) longest.toNanos := by
  have hsplit : nanosPerSecond * (d.nanos * 2 / nanosPerSecond) + d.nanos * 2 % nanosPerSecond =
      d.nanos * 2 := Nat.div_add_mod _ _
  unfold double
  dsimp only
  split
  · next hfits =>
    -- seconds, carry and rest together are the doubled number, which is one of a span
    have hexact := toNanos_le_longest
      { secs := d.secs * 2 + d.nanos * 2 / nanosPerSecond
        nanos := d.nanos * 2 % nanosPerSecond
        secs_lt := hfits
        nanos_lt := Nat.mod_lt _ nanosPerSecond_pos }
    simp only [toNanos, nanosPerSecond] at hsplit hexact ⊢
    omega
  · next hover =>
    -- the whole seconds alone are more than the longest span has
    have hlongest : longest.toNanos = (UInt64.size - 1) * nanosPerSecond + (nanosPerSecond - 1) := rfl
    simp only [toNanos, nanosPerSecond, UInt64.size] at hsplit hover hlongest ⊢
    omega

end InstanceOperator.Duration
