import InstanceOperator.Proofs.Config.Decision
import InstanceOperator.Proofs.Time.Instant

/-!
# Deadlines that the clock can hold

A pass is given a deadline when it starts: the reading that the clock will have after the pass
timeout. Readings have an end, while the pass timeout is bounded from below only, so that a
configuration may be accepted under which a pass has no deadline. If the clock is known to stay in
the lower half of its range, the timeouts that are safe are those of at most `2 ^ 62` seconds, which
is the other half.

`deadlines_exist_iff` says which configurations leave every pass its deadline.
-/

namespace InstanceOperator

/-- A pass timeout is within a limit that is not below the default exactly if what is given for it
is. -/
theorem Config.SettledBy.passTimeout_le_iff {lookup : Lookup} {c : Config} {limit : Nat}
    (hc : c.SettledBy lookup) (hlimit : 30 ≤ limit) :
    c.passTimeout.toNanos ≤ limit * nanosPerSecond ↔
      ∀ t n, Setting.passTimeout.Given lookup t → Text.Decimal t n → n ≤ limit := by
  -- a timeout that is given is the number in the text; the default is below the limit
  cases hc .passTimeout with
  | given ht hv =>
    obtain ⟨n, hn, -, hvalue⟩ := (Setting.denotes_seconds_iff (.inl rfl)).1 hv
    rw [SettingValue.span.inj hvalue, Nat.mul_le_mul_right_iff Duration.nanosPerSecond_pos]
    constructor
    · intro hle t' n' ht' hn'
      rw [ht'.unique ht] at hn'
      rw [hn'.unique hn]
      exact hle
    · intro h
      exact h _ n ht hn
  | absent hnone hv =>
    rw [SettingValue.span.inj hv, Nat.mul_le_mul_right_iff Duration.nanosPerSecond_pos]
    constructor
    · intro _ t n ht
      exact absurd ht (hnone t)
    · intro _
      exact hlimit

/-- Under a configuration that is accepted, every pass has a deadline, the sum of the reading at its
start and of the pass timeout, as long as the clock stays in the lower half of its range, exactly if
no pass timeout above half the range is given. -/
theorem deadlines_exist_iff {lookup : Lookup} {c : Config} (h : Config.load lookup = .ok c) :
    (∀ now : Instant, now.secs < 2 ^ 62 →
      ∃ deadline, now.after? c.passTimeout = some deadline ∧
        deadline.toNanos = now.toNanos + c.passTimeout.toNanos) ↔
      ∀ t n, Setting.passTimeout.Given lookup t → Text.Decimal t n → n ≤ 2 ^ 62 := by
  obtain ⟨hc, -⟩ := load_eq_ok_iff.1 h
  have hwhole := (hc .passTimeout).whole_seconds (.inl rfl)
  rw [← hc.passTimeout_le_iff (by decide), ← Instant.forall_exists_after?_iff hwhole]
  refine forall_congr' fun now => imp_congr_right fun _ => exists_congr fun deadline => ?_
  exact and_iff_left_of_imp Instant.toNanos_of_after?

/-- Half the range is the longest pass timeout that leaves every pass its deadline. -/
theorem half_range_has_deadlines :
    Config.load (fun name => List.lookup name [("PASS_TIMEOUT_SECS", "4611686018427387904")]) =
      .ok { passTimeout := Duration.ofSecs (2 ^ 62) } ∧
    ∀ now : Instant, now.secs < 2 ^ 62 →
      ∃ deadline, now.after? (Duration.ofSecs (2 ^ 62)) = some deadline ∧
        deadline.toNanos = now.toNanos + (Duration.ofSecs (2 ^ 62)).toNanos := by
  have hload : Config.load
      (fun name => List.lookup name [("PASS_TIMEOUT_SECS", "4611686018427387904")]) =
        .ok { passTimeout := Duration.ofSecs (2 ^ 62) } := by
    rfl
  refine ⟨hload, (deadlines_exist_iff hload).2 ?_⟩
  rintro t n ⟨raw, hraw, ht, -⟩ hn
  have hbyRule : Text.Decimal "4611686018427387904" (2 ^ 62) :=
    (Text.readNatural_eq_ok_iff.1 (by rfl : Text.readNatural (2 ^ 62) _ = .ok (2 ^ 62))).1
  cases hraw
  rw [← Text.trim_eq_iff.2 ht] at hn
  exact Nat.le_of_eq (hn.unique hbyRule)

/-- A pass timeout above the range of the clock is accepted, although no pass has a deadline under
it, not even at the origin of the clock. -/
theorem longest_timeout_accepted :
    Config.load (fun name => List.lookup name [("PASS_TIMEOUT_SECS", "18446744073709551615")]) =
      .ok { passTimeout := Duration.ofSecs 18446744073709551615 } ∧
    Instant.after? { secs := 0, nanos := 0 } (Duration.ofSecs 18446744073709551615) = none := by
  constructor
  · rfl
  · decide

end InstanceOperator
