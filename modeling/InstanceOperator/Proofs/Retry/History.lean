import InstanceOperator.Proofs.Retry.Tracker

/-!
# A tracker over time

A tracker is told of failures and successes one after the other, for any keys in any order. Where it
stands for a key is settled by how often the key has failed since its last success
(`failuresInRow`): so many delays have been given, and so many failures are counted, up to the
greatest count. `Tracker.Follows` says this for all keys at once; every verdict keeps it.

* `failuresInRow`: failures of a key since its last success.
* `Tracker.Follows.receive`, `Tracker.Follows.after`: one verdict and a sequence of verdicts.
* `tracker_answers_by_own_failures`: the result, for every sequence.
-/

namespace InstanceOperator

/-! ## Verdicts -/

/-- What a tracker is told. -/
inductive Verdict where
  /-- A key has failed; the answer says how long to wait. -/
  | failure (key : String)
  /-- A key has succeeded. -/
  | success (key : String)
deriving DecidableEq

def Verdict.key : Verdict → String
  | .failure key => key
  | .success key => key

namespace Tracker

/-- The answer to a verdict, and the tracker behind it. A failure is answered by the delay and the
number of failures in a row. -/
def receive (t : Tracker) : Verdict → Option (Duration × Nat) × Tracker
  | .failure key => (some (t.nextDelay key, t.nextAttempt key), t.fail key)
  | .success key => (none, t.reset key)

/-- The answers to verdicts that come one after the other. -/
def answers : Tracker → List Verdict → List (Option (Duration × Nat))
  | _, [] => []
  | t, v :: vs => (t.receive v).1 :: (t.receive v).2.answers vs

/-- The tracker behind verdicts that come one after the other. -/
def after : Tracker → List Verdict → Tracker
  | t, [] => t
  | t, v :: vs => (t.receive v).2.after vs

/-- The answer to a verdict depends on the tracker behind the verdicts before it. -/
theorem getElem?_answers (t : Tracker) (earlier later : List Verdict) (v : Verdict) :
    (t.answers (earlier ++ v :: later))[earlier.length]? = some ((t.after earlier).receive v).1 := by
  induction earlier generalizing t with
  | nil => rfl
  | cons first earlier ih => exact ih (t.receive first).2

end Tracker

/-! ## Failures in a row -/

/-- How often a key has failed since its last success. The latest verdict stands first. -/
def failuresInRow (key : String) (past : List Verdict) : Nat :=
  (past.takeWhile fun v => v ≠ .success key).count (.failure key)

section failuresInRow

variable {key : String} {v : Verdict}

theorem failuresInRow_failure (key : String) (past : List Verdict) :
    failuresInRow key (.failure key :: past) = failuresInRow key past + 1 := by
  simp [failuresInRow]

theorem failuresInRow_success (key : String) (past : List Verdict) :
    failuresInRow key (.success key :: past) = 0 := by
  simp [failuresInRow]

/-- A verdict about another key makes no difference. -/
theorem failuresInRow_of_ne (h : v.key ≠ key) (past : List Verdict) :
    failuresInRow key (v :: past) = failuresInRow key past := by
  have hfailure : v ≠ .failure key := by
    rintro rfl
    exact h rfl
  have hsuccess : v ≠ .success key := by
    rintro rfl
    exact h rfl
  simp [failuresInRow, hfailure, hsuccess]

/-- Only the verdicts about the key itself count. -/
theorem failuresInRow_filter (key : String) (past : List Verdict) :
    failuresInRow key (past.filter fun v => v.key = key) = failuresInRow key past := by
  induction past with
  | nil => rfl
  | cons v past ih =>
    by_cases h : v.key = key
    · rw [List.filter_cons_of_pos (by simpa using h)]
      cases v with
      | failure key' =>
        obtain rfl : key' = key := h
        rw [failuresInRow_failure, failuresInRow_failure, ih]
      | success key' =>
        obtain rfl : key' = key := h
        rw [failuresInRow_success, failuresInRow_success]
    · rw [List.filter_cons_of_neg (by simpa using h), failuresInRow_of_ne h, ih]

/-- A key has failed since its last success exactly if it has failed last. -/
theorem failuresInRow_pos_iff (key : String) (past : List Verdict) :
    0 < failuresInRow key past ↔
      (past.filter fun v => v.key = key).head? = some (.failure key) := by
  induction past with
  | nil => simp [failuresInRow]
  | cons v past ih =>
    by_cases h : v.key = key
    · rw [List.filter_cons_of_pos (by simpa using h)]
      cases v with
      | failure key' =>
        obtain rfl : key' = key := h
        simp [failuresInRow_failure]
      | success key' =>
        obtain rfl : key' = key := h
        simp [failuresInRow_success]
    · rw [List.filter_cons_of_neg (by simpa using h), failuresInRow_of_ne h, ih]

end failuresInRow

/-- A count is the same whether it is cut off at each step or once. -/
theorem min_min_add_one (n limit : Nat) :
    Nat.min (Nat.min n limit + 1) limit = Nat.min (n + 1) limit := by
  show min (min n limit + 1) limit = min (n + 1) limit
  omega

/-! ## Where the tracker stands -/

namespace Tracker

/-- Behind some verdicts, the latest first, the tracker stands for each key where the failures of the
key in a row have brought it, and holds the keys that have any. -/
structure Follows (min max : Duration) (past : List Verdict) (t : Tracker) : Prop where
  fresh : t.fresh = ⟨Backoff.start min max, 0⟩
  state : ∀ key, t.state key =
    ⟨(Backoff.start min max).skip (failuresInRow key past),
      Nat.min (failuresInRow key past) attemptsLimit⟩
  holds : ∀ key, t.failing.contains key = true ↔ 0 < failuresInRow key past

variable {min max : Duration} {past : List Verdict} {t : Tracker}

/-- A new tracker stands where no verdict has been given. -/
theorem follows_start (min max : Duration) : Follows min max [] { min, max } := by
  refine ⟨rfl, fun key => rfl, ?_⟩
  intro key
  simp [failuresInRow, Registry.contains]

namespace Follows

/-- The next attempt is counted from the failures in a row, up to the limit of the counter. -/
theorem nextAttempt_eq (h : Follows min max past t) (key : String) :
    t.nextAttempt key = Nat.min (failuresInRow key past + 1) attemptsLimit := by
  have hcount : (t.state key).attempts = Nat.min (failuresInRow key past) attemptsLimit := by
    rw [h.state]
  rw [nextAttempt, hcount, min_min_add_one]

/-- A failure takes its own key one delay further, and no other. -/
theorem fail (h : Follows min max past t) (key : String) :
    Follows min max (.failure key :: past) (t.fail key) := by
  refine ⟨h.fresh, ?_, ?_⟩
  · intro key'
    rw [state_fail]
    -- its own key has one failure more in a row, the others have as many as before
    by_cases heq : key = key'
    · subst heq
      rw [if_pos rfl, failuresInRow_failure, h.nextAttempt_eq, h.state]
      rfl
    · have hne : (Verdict.failure key).key ≠ key' := heq
      rw [if_neg heq, failuresInRow_of_ne hne, h.state]
  · intro key'
    rw [Registry.contains, Tracker.fail, Registry.get?_insert]
    by_cases heq : key = key'
    · subst heq
      simp [failuresInRow_failure]
    · have hne : (Verdict.failure key).key ≠ key' := heq
      rw [if_neg heq, failuresInRow_of_ne hne, ← h.holds, Registry.contains]

/-- A success takes its own key back to the start, and no other. -/
theorem reset (h : Follows min max past t) (key : String) :
    Follows min max (.success key :: past) (t.reset key) := by
  refine ⟨h.fresh, ?_, ?_⟩
  · intro key'
    rw [state_reset]
    by_cases heq : key = key'
    · subst heq
      rw [if_pos rfl, failuresInRow_success, h.fresh]
      rfl
    · have hne : (Verdict.success key).key ≠ key' := heq
      rw [if_neg heq, failuresInRow_of_ne hne, h.state]
  · intro key'
    rw [Registry.contains, Tracker.reset, Registry.get?_erase]
    by_cases heq : key = key'
    · subst heq
      simp [failuresInRow_success]
    · have hne : (Verdict.success key).key ≠ key' := heq
      rw [if_neg heq, failuresInRow_of_ne hne, ← h.holds, Registry.contains]

/-- Every verdict keeps the tracker where the failures in a row have brought it. -/
theorem receive (h : Follows min max past t) (v : Verdict) :
    Follows min max (v :: past) (t.receive v).2 := by
  cases v with
  | failure key => exact h.fail key
  | success key => exact h.reset key

/-- A tracker follows all verdicts that it is told, in their order. -/
theorem after (h : Follows min max past t) (vs : List Verdict) :
    Follows min max (vs.reverse ++ past) (t.after vs) := by
  induction vs generalizing t past with
  | nil => exact h
  | cons v vs ih =>
    rw [List.reverse_cons, List.append_assoc]
    exact ih (h.receive v)

/-- What a further failure is answered by. -/
theorem answer (h : Follows min max past t) (key : String) :
    (t.receive (.failure key)).1 =
      some (((Backoff.start min max).skip (failuresInRow key past)).current,
        Nat.min (failuresInRow key past + 1) attemptsLimit) := by
  show some (t.nextDelay key, t.nextAttempt key) = _
  rw [h.nextAttempt_eq, nextDelay, h.state]

end Follows

end Tracker

/-! ## The result -/

/-- **A failure is answered by the key's own failures in a row.** A tracker that holds nothing
at first is told any verdicts. A failure that comes after `j` failures of its key since the key's
last success is answered by the delay at place `j` of a sequence of delays that begins anew, and by
the count `j + 1`, or the greatest count if that is less. The answer is the same as if nothing had
been told of other keys. The tracker holds the keys whose last verdict was a failure. -/
theorem tracker_answers_by_own_failures (min max : Duration) (earlier later : List Verdict)
    (key : String) :
    let start : Tracker := { min, max }
    let j := failuresInRow key earlier.reverse
    (∃ d, ((Backoff.start min max).delays (j + 1))[j]? = some d ∧
      (start.answers (earlier ++ .failure key :: later))[earlier.length]? =
        some (some (d, Nat.min (j + 1) 4294967295))) ∧
    ((start.after earlier).receive (.failure key)).1 =
      ((start.after (earlier.filter fun v => v.key = key)).receive (.failure key)).1 ∧
    ((start.after earlier).failing.contains key = true ↔
      (earlier.filter fun v => v.key = key).getLast? = some (.failure key)) := by
  intro start j
  have hfollows : ∀ vs, Tracker.Follows min max vs.reverse (start.after vs) := by
    intro vs
    have h := (Tracker.follows_start min max).after vs
    rw [List.append_nil] at h
    exact h
  refine ⟨?_, ?_, ?_⟩
  · have hdelay : ((Backoff.start min max).delays (j + 1))[j]? =
        some ((Backoff.start min max).skip j).current :=
      Backoff.getElem?_delays _ (Nat.lt_succ_self j)
    refine ⟨_, hdelay, ?_⟩
    rw [Tracker.getElem?_answers, (hfollows earlier).answer]
    rfl
  · have hown : failuresInRow key (earlier.filter fun v => v.key = key).reverse = j := by
      rw [← List.filter_reverse, failuresInRow_filter]
    rw [(hfollows earlier).answer, (hfollows _).answer, hown]
  · rw [(hfollows earlier).holds, failuresInRow_pos_iff, List.filter_reverse, List.head?_reverse]

end InstanceOperator
