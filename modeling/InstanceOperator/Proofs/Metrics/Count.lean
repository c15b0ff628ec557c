import InstanceOperator.Metrics.Basic
import Mathlib.Data.String.Basic

/-!
# Counting one event

What counting an event does to the metrics: it adds one to a single counter. The counters by kind
are read through `Metrics.read`. The passes are counted by the text of their result, in a list that
is kept in the order of the texts (`Tally.Sorted`).
-/

namespace InstanceOperator

/-- A counter that the traces of a job are entered in. -/
inductive Counter where
  | created (kind : Kind)
  | failed (kind : Kind) (phase : FailurePhase)
  | drifted (kind : Kind)

/-- The event that a counter counts. -/
def Counter.event : Counter → MetricEvent
  | .created kind => .created kind
  | .failed kind phase => .failed kind phase
  | .drifted kind => .drifted kind

namespace Metrics

/-- The value of a counter. -/
def read (m : Metrics) : Counter → Nat
  | .created kind => m.created.get kind
  | .failed kind phase => m.failures kind phase
  | .drifted kind => m.drifted.get kind

/-- Counting for one kind leaves the counts of the others. -/
theorem get_bump (p : PerKind Nat) (kind kind' : Kind) :
    (bump p kind).get kind' = p.get kind' + (decide (kind = kind')).toNat := by
  rw [bump, PerKind.get_set]
  by_cases h : kind = kind'
  · subst h
    simp
  · simp [h]

/-- An event adds one to its own counter, and nothing to the others. -/
theorem read_record (m : Metrics) (e : MetricEvent) (c : Counter) :
    (m.record e).read c = m.read c + (decide (e = c.event)).toNat := by
  cases e with
  | passEnded result elapsed => cases c <;> rfl
  | requeued => cases c <;> rfl
  | ready => cases c <;> rfl
  | created kind =>
    cases c with
    | created kind' => simpa [Counter.event, record, read] using get_bump m.created kind kind'
    | failed kind' phase => cases phase <;> rfl
    | drifted kind' => rfl
  | drifted kind =>
    cases c with
    | created kind' => rfl
    | failed kind' phase => cases phase <;> rfl
    | drifted kind' => simpa [Counter.event, record, read] using get_bump m.drifted kind kind'
  | failed kind phase =>
    cases c with
    | created kind' => cases phase <;> rfl
    | drifted kind' => cases phase <;> rfl
    | failed kind' phase' =>
      -- lookups and creations are counted apart
      cases phase <;> cases phase'
      · simpa [Counter.event, record, read, failures] using get_bump m.lookupFailures kind kind'
      · simp [Counter.event, record, read, failures]
      · simp [Counter.event, record, read, failures]
      · simpa [Counter.event, record, read, failures] using get_bump m.createFailures kind kind'

end Metrics

namespace Tally

/-- The texts stand in order, each once. -/
def Sorted (t : Tally) : Prop := t.Pairwise fun a b => a.1 < b.1

theorem get_cons (text text' : String) (n : Nat) (t : Tally) :
    get text ((text', n) :: t) = if text = text' then n else get text t := by
  unfold get
  rw [List.lookup_cons]
  by_cases h : text = text'
  · simp [h]
  · have hne : (text == text') = false := by simpa using h
    simp [h, hne]

/-- A text that is below all others is not there. -/
theorem get_eq_zero {text : String} {t : Tally} (h : ∀ e ∈ t, text < e.1) : get text t = 0 := by
  induction t with
  | nil => rfl
  | cons e t ih =>
    have hne : text ≠ e.1 := (h e List.mem_cons_self).ne
    rw [get_cons, if_neg hne]
    exact ih fun e' he' => h e' (List.mem_cons_of_mem _ he')

/-- Counting a text adds an entry for it at most. -/
theorem mem_count {text : String} {t : Tally} {e : String × Nat} (h : e ∈ t.count text) :
    e.1 = text ∨ ∃ e' ∈ t, e'.1 = e.1 := by
  induction t with
  | nil =>
    left
    rw [List.mem_singleton.1 h]
  | cons e' t ih =>
    obtain ⟨text', n⟩ := e'
    unfold count at h
    -- the new text goes in front, its own entry is counted up, or it belongs further behind
    split at h
    · rcases List.mem_cons.1 h with rfl | h
      · exact .inl rfl
      · exact .inr ⟨e, h, rfl⟩
    · split at h
      · rcases List.mem_cons.1 h with rfl | h
        · exact .inr ⟨_, List.mem_cons_self, rfl⟩
        · exact .inr ⟨e, List.mem_cons_of_mem _ h, rfl⟩
      · rcases List.mem_cons.1 h with rfl | h
        · exact .inr ⟨_, List.mem_cons_self, rfl⟩
        · rcases ih h with htext | ⟨e', he', heq⟩
          · exact .inl htext
          · exact .inr ⟨e', List.mem_cons_of_mem _ he', heq⟩

/-- Counting a text keeps the entries in order, so that a lookup finds its own. -/
theorem Sorted.count {t : Tally} (h : t.Sorted) (text : String) : (t.count text).Sorted := by
  induction t with
  | nil => exact List.pairwise_singleton _ _
  | cons e t ih =>
    obtain ⟨text', n⟩ := e
    obtain ⟨hfirst, hrest⟩ := List.pairwise_cons.1 h
    unfold Tally.count
    by_cases hlt : text < text'
    · rw [if_pos hlt]
      refine List.pairwise_cons.2 ⟨?_, h⟩
      intro e he
      rcases List.mem_cons.1 he with rfl | he
      · exact hlt
      · exact hlt.trans (hfirst e he)
    · rw [if_neg hlt]
      by_cases heq : text = text'
      · rw [if_pos heq]
        exact List.pairwise_cons.2 ⟨hfirst, hrest⟩
      · rw [if_neg heq]
        refine List.pairwise_cons.2 ⟨?_, ih hrest⟩
        intro e he
        -- an entry behind the first is one of the old ones, or that of the new text
        rcases mem_count he with htext | ⟨e', he', htext⟩
        · rw [htext]
          exact lt_of_le_of_ne (not_lt.1 hlt) (Ne.symm heq)
        · rw [← htext]
          exact hfirst e' he'

/-- Counting a text adds one to its own count. -/
theorem get_count {t : Tally} (h : t.Sorted) (text text' : String) :
    (t.count text).get text' = t.get text' + (decide (text = text')).toNat := by
  induction t with
  | nil =>
    rw [count, get_cons]
    by_cases heq : text = text'
    · simp [heq, get]
    · simp [heq, Ne.symm heq, get]
  | cons e t ih =>
    obtain ⟨text'', n⟩ := e
    obtain ⟨hfirst, hrest⟩ := List.pairwise_cons.1 h
    unfold count
    by_cases hlt : text < text''
    · -- the text comes before all others, so it was not there
      have hzero : get text ((text'', n) :: t) = 0 := by
        apply get_eq_zero
        intro e he
        rcases List.mem_cons.1 he with rfl | he
        · exact hlt
        · exact hlt.trans (hfirst e he)
      rw [if_pos hlt, get_cons]
      by_cases heq : text = text'
      · rw [if_pos heq.symm, ← heq, hzero]
        simp
      · rw [if_neg (Ne.symm heq)]
        simp [heq]
    · rw [if_neg hlt]
      -- either the first entry is its own, or the rest takes it in
      by_cases hsame : text = text''
      · rw [if_pos hsame, get_cons, get_cons, ← hsame]
        by_cases heq : text = text'
        · simp [heq]
        · simp [heq, Ne.symm heq]
      · rw [if_neg hsame, get_cons, get_cons, ih hrest]
        by_cases heq : text' = text''
        · simp [heq, hsame]
        · simp [heq]

end Tally

/-! ## Many events -/

/-- A pass has ended with a result of this name. -/
def MetricEvent.ends (text : String) : MetricEvent → Bool
  | .passEnded result _ => result = text
  | _ => false

namespace Metrics

/-- A counter counts the events of its sort. -/
theorem read_foldl_record (m : Metrics) (es : List MetricEvent) (c : Counter) :
    (es.foldl record m).read c = m.read c + es.countP (· = c.event) := by
  induction es generalizing m with
  | nil => rfl
  | cons e es ih =>
    rw [List.foldl_cons, ih, read_record, List.countP_cons, Nat.add_assoc, Nat.add_comm (es.countP _)]
    by_cases h : e = c.event <;> simp [h]

/-- The end of a pass adds one to the passes of its result, and no other event does. -/
theorem passes_record {m : Metrics} (hm : m.passes.Sorted) (e : MetricEvent) :
    (m.record e).passes.Sorted ∧
      ∀ text, (m.record e).passes.get text = m.passes.get text + (e.ends text).toNat := by
  cases e with
  | passEnded result elapsed => exact ⟨hm.count result, Tally.get_count hm result⟩
  | created kind => exact ⟨hm, fun _ => rfl⟩
  | failed kind phase => cases phase <;> exact ⟨hm, fun _ => rfl⟩
  | drifted kind => exact ⟨hm, fun _ => rfl⟩
  | requeued => exact ⟨hm, fun _ => rfl⟩
  | ready => exact ⟨hm, fun _ => rfl⟩

/-- The count for the name of a result counts the passes that ended with it. -/
theorem passes_foldl_record {m : Metrics} (hm : m.passes.Sorted) (es : List MetricEvent)
    (text : String) :
    (es.foldl record m).passes.get text = m.passes.get text + es.countP (MetricEvent.ends text) := by
  induction es generalizing m with
  | nil => rfl
  | cons e es ih =>
    obtain ⟨hsorted, hget⟩ := passes_record hm e
    rw [List.foldl_cons, ih hsorted, hget, List.countP_cons, Nat.add_assoc,
      Nat.add_comm (es.countP _)]
    cases h : e.ends text <;> simp

end Metrics

end InstanceOperator
