import InstanceOperator.Object.Kind
import InstanceOperator.Retry.Tracker

/-!
# What the tracker of failures remembers

A failure advances the delays of its key and a success drops them; the delays of every other key
stay as they are. Failures are tracked by the written form of a key, which tells keys apart as long
as no namespace contains a slash.
-/

namespace InstanceOperator

/-! ## Delays -/

namespace Backoff

/-- The sequence behind its first delays. -/
def skip (b : Backoff) : Nat → Backoff
  | 0 => b
  | n + 1 => (b.skip n).advance

/-- Skipping delays and advancing once more may be done in either order. -/
theorem skip_advance (b : Backoff) (n : Nat) : b.advance.skip n = (b.skip n).advance := by
  induction n with
  | zero => rfl
  | succ n ih =>
    show (b.advance.skip n).advance = (b.skip n).advance.advance
    rw [ih]

/-- A delay of a sequence is the one that comes next behind those before it. -/
theorem getElem?_delays (b : Backoff) {n j : Nat} (h : j < n) :
    (b.delays n)[j]? = some (b.skip j).current := by
  induction n generalizing b j with
  | zero => cases h
  | succ n ih =>
    cases j with
    | zero => rfl
    | succ j =>
      rw [delays, List.getElem?_cons_succ, ih b.advance (Nat.lt_of_succ_lt_succ h), skip_advance]
      rfl

end Backoff

/-! ## Failures and successes -/

namespace Tracker

/-- A failure advances the delays of its key, and of no other. -/
theorem state_fail (t : Tracker) (key key' : String) :
    (t.fail key).state key' =
      if key = key' then ⟨(t.state key).backoff.advance, t.nextAttempt key⟩ else t.state key' := by
  unfold state fail
  rw [Registry.get?_insert]
  split <;> rfl

/-- A success takes its key back to the start, and no other. -/
theorem state_reset (t : Tracker) (key key' : String) :
    (t.reset key).state key' = if key = key' then t.fresh else t.state key' := by
  unfold state reset
  rw [Registry.get?_erase]
  split <;> rfl

theorem state_of_failing_empty {t : Tracker} (h : t.failing = Registry.empty) (key : String) :
    t.state key = t.fresh := by
  rw [state, h]
  rfl

end Tracker

/-! ## Keys and their written form -/

namespace ObjectKey

/-- The namespace of the key contains no slash. -/
def Slashless (key : ObjectKey) : Prop := '/' ∉ key.ns.toList

theorem toList_text (key : ObjectKey) :
    key.text.toList = key.ns.toList ++ '/' :: key.name.toList := by
  simp [text]

/-- What stands before the first slash is the namespace. -/
theorem Slashless.takeWhile_text {key : ObjectKey} (h : key.Slashless) :
    key.text.toList.takeWhile (· ≠ '/') = key.ns.toList := by
  have hns : ∀ c ∈ key.ns.toList, decide (c ≠ '/') = true := by
    intro c hc
    have hne : c ≠ '/' := by
      rintro rfl
      exact h hc
    simpa using hne
  rw [toList_text, List.takeWhile_append_of_pos hns, List.takeWhile_cons_of_neg (by simp),
    List.append_nil]

/-- Keys without slashes in their namespaces are told apart by their written form. -/
theorem Slashless.text_inj {key key' : ObjectKey} (h : key.Slashless) (h' : key'.Slashless)
    (heq : key.text = key'.text) : key = key' := by
  have hns : key.ns.toList = key'.ns.toList := by
    rw [← h.takeWhile_text, ← h'.takeWhile_text, heq]
  have hname : key.name.toList = key'.name.toList := by
    have hlist := congrArg String.toList heq
    rw [toList_text, toList_text, hns] at hlist
    exact (List.cons.inj (List.append_cancel_left hlist)).2
  obtain ⟨ns, name⟩ := key
  obtain ⟨ns', name'⟩ := key'
  cases String.toList_inj.1 hns
  cases String.toList_inj.1 hname
  rfl

end ObjectKey

end InstanceOperator
