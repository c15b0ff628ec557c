import InstanceOperator.Proofs.Time.Duration
import InstanceOperator.Retry.Backoff
import Mathlib.Algebra.Ring.Nat

/-!
# The delays of a sequence

A sequence of delays is made step by step: each delay is the double of the one before, as long as
spans reach, and is then cut off at the greatest delay. What comes out is the first delay times a
power of two, cut off once. Neither the many cuts nor the end of the range of spans shows, because
what is cut off is above the greatest delay, and doubling it keeps it there.

* `Backoff.toNanos_current_advance`: one step, in nanoseconds.
* `boundlessDelays`: the sequence if spans had no end.
* `delays_are_capped_powers`: the result, for all first and greatest delays.
-/

namespace InstanceOperator

/-- The first `n` delays in nanoseconds, if there were no longest span: each is twice the one before,
up to the greatest one. -/
def boundlessDelays (greatest next : Nat) : Nat → List Nat
  | 0 => []
  | n + 1 => next :: boundlessDelays greatest (min (2 * next) greatest) n

/-! ## A sequence of numbers -/

section boundless

variable {greatest next : Nat}

/-- A cut in between makes no difference, since what is above the limit stays there. -/
theorem min_two_pow_mul_min (greatest next k : Nat) :
    min greatest (2 ^ k * min next greatest) = min greatest (2 ^ k * next) := by
  have hle : greatest ≤ 2 ^ k * greatest := Nat.le_mul_of_pos_left _ (Nat.two_pow_pos k)
  rw [← Nat.mul_min_mul_left]
  omega

/-- Doubling under a bound is doubling freely and taking the bound in the end. -/
theorem boundlessDelays_eq (h : next ≤ greatest) (n : Nat) :
    boundlessDelays greatest next n =
      (List.range n).map fun k => min greatest (2 ^ k * next) := by
  induction n generalizing next with
  | zero => rfl
  | succ n ih =>
    have hstep : ∀ k, min greatest (2 ^ k * min (2 * next) greatest) =
        min greatest (2 ^ (k + 1) * next) := by
      intro k
      rw [min_two_pow_mul_min, Nat.pow_succ, Nat.mul_assoc]
    have htail := ih (Nat.min_le_right (2 * next) greatest)
    have hhead : min greatest (2 ^ 0 * next) = next := by
      rw [Nat.pow_zero, Nat.one_mul]
      exact Nat.min_eq_right h
    rw [boundlessDelays, htail, List.range_succ_eq_map, List.map_cons, List.map_map, hhead]
    simp only [hstep, Function.comp_def]

end boundless

/-! ## A sequence of spans -/

namespace Backoff

theorem current_advance (b : Backoff) : b.advance.current = b.current.double.shorter b.max := by
  rw [advance]

theorem max_advance (b : Backoff) : b.advance.max = b.max := by
  rw [advance]

/-- One step doubles the delay and cuts it off. That the doubled delay may be no span does not show,
because no greatest delay is beyond the longest span. -/
theorem toNanos_current_advance (b : Backoff) :
    b.advance.current.toNanos = min (2 * b.current.toNanos) b.max.toNanos := by
  calc b.advance.current.toNanos
      = min b.current.double.toNanos b.max.toNanos := by
        rw [current_advance, Duration.toNanos_shorter]
    _ = min (min (2 * b.current.toNanos) Duration.longest.toNanos) b.max.toNanos := by
        rw [Duration.toNanos_double]
    _ = min (2 * b.current.toNanos) (min Duration.longest.toNanos b.max.toNanos) := Nat.min_assoc _ _ _
    _ = min (2 * b.current.toNanos) b.max.toNanos := by
        rw [Nat.min_eq_right b.max.toNanos_le_longest]

/-- Doubling without a longest span gives the same delays. -/
theorem map_toNanos_delays (b : Backoff) (n : Nat) :
    (b.delays n).map Duration.toNanos = boundlessDelays b.max.toNanos b.current.toNanos n := by
  induction n generalizing b with
  | zero => rfl
  | succ n ih =>
    have htail : (b.advance.delays n).map Duration.toNanos =
        boundlessDelays b.max.toNanos (min (2 * b.current.toNanos) b.max.toNanos) n := by
      rw [ih, toNanos_current_advance, max_advance]
    rw [delays, List.map_cons, htail, boundlessDelays]

end Backoff

/-- **Delays are powers of two times the first one, up to the greatest one.** The delay at place `k`
is the smaller of the greatest delay and `2 ^ k` times the least one, in exact nanoseconds, also
where the least delay is none at all or above the greatest one. So delays never decrease and never
exceed the greatest one, and they are the same as if doubling knew no longest span. -/
theorem delays_are_capped_powers (least greatest : Duration) (n : Nat) :
    let delays := (Backoff.start least greatest).delays n
    delays.map Duration.toNanos =
      (List.range n).map (fun k => min greatest.toNanos (2 ^ k * least.toNanos)) ∧
    delays.Pairwise (fun d e => d.toNanos ≤ e.toNanos) ∧
    (∀ d ∈ delays, d.toNanos ≤ greatest.toNanos) ∧
    delays.map Duration.toNanos =
      boundlessDelays greatest.toNanos (min least.toNanos greatest.toNanos) n := by
  intro delays
  have hfirst : (Backoff.start least greatest).current.toNanos =
      min least.toNanos greatest.toNanos := Duration.toNanos_shorter _ _
  have hboundless : delays.map Duration.toNanos =
      boundlessDelays greatest.toNanos (min least.toNanos greatest.toNanos) n := by
    rw [Backoff.map_toNanos_delays, hfirst]
    rfl
  have hpowers : delays.map Duration.toNanos =
      (List.range n).map fun k => min greatest.toNanos (2 ^ k * least.toNanos) := by
    rw [hboundless, boundlessDelays_eq (Nat.min_le_right _ _)]
    simp only [min_two_pow_mul_min]
  refine ⟨hpowers, ?_, ?_, hboundless⟩
  · -- the powers increase, and a limit keeps the order
    have hincreasing : ((List.range n).map fun k =>
        min greatest.toNanos (2 ^ k * least.toNanos)).Pairwise (· ≤ ·) := by
      rw [List.pairwise_map]
      refine List.pairwise_lt_range.imp ?_
      intro j k hjk
      have hpow : 2 ^ j * least.toNanos ≤ 2 ^ k * least.toNanos :=
        Nat.mul_le_mul_right _ (Nat.pow_le_pow_right (by decide) (Nat.le_of_lt hjk))
      omega
    rw [← hpowers, List.pairwise_map] at hincreasing
    exact hincreasing
  · intro d hd
    have hmem := List.mem_map_of_mem (f := Duration.toNanos) hd
    rw [hpowers, List.mem_map] at hmem
    rcases hmem with ⟨k, -, hk⟩
    rw [← hk]
    exact Nat.min_le_left _ _

/-- Six doublings bring five seconds to five minutes, where they stay. -/
example : ((Backoff.start (Duration.ofSecs 5) (Duration.ofSecs 300)).delays 8).map Duration.secs =
    [5, 10, 20, 40, 80, 160, 300, 300] := by decide

end InstanceOperator
