import InstanceOperator.Proofs.Pass.Course
import InstanceOperator.Store.Memory

/-!
# What a reply of the store in memory tells

A call gets its result from the store, or is given up. `MemoryStore.Replies` covers both, so that
what holds of every reply holds however long calls take and whatever failures are injected. The
theorems of this module say, for each call, what its result tells about the contents, and what the
call has done to them.
-/

namespace InstanceOperator

/-- No injected failure says that something is not there, so none leads to a creation. -/
theorem Failure.error?_ne_notFound {f : Failure} {target target' : String} :
    f.error? target ≠ some (.notFound target') := by
  cases f <;> simp [error?]

namespace MemoryStore

/-! ## Contents apart from the calls remembered -/

/-- Two stores differ in the calls that they remember at most. -/
def Same (s t : MemoryStore) : Prop := s.resetCalls = t.resetCalls

theorem Same.refl (s : MemoryStore) : s.Same s := rfl

theorem Same.trans {s t u : MemoryStore} (h₁ : s.Same t) (h₂ : t.Same u) : s.Same u :=
  Eq.trans h₁ h₂

theorem Same.instances {s t : MemoryStore} (h : s.Same t) : s.instances = t.instances := by
  have h' : s.resetCalls = t.resetCalls := h
  have hf := congrArg MemoryStore.instances h'
  exact hf

theorem Same.dependents {s t : MemoryStore} (h : s.Same t) : s.dependents = t.dependents := by
  have h' : s.resetCalls = t.resetCalls := h
  have hf := congrArg MemoryStore.dependents h'
  exact hf

theorem Same.creations {s t : MemoryStore} (h : s.Same t) : s.creations = t.creations := by
  have h' : s.resetCalls = t.resetCalls := h
  have hf := congrArg MemoryStore.creations h'
  exact hf

theorem Same.failure? {s t : MemoryStore} (h : s.Same t) (c : Call) :
    s.failure? c = t.failure? c := by
  have h' : s.resetCalls = t.resetCalls := h
  have hf := congrArg (MemoryStore.failure? · c) h'
  cases c <;> exact hf

theorem same_remember (s : MemoryStore) (c : Call) : s.Same (s.remember c) := rfl

theorem failure?_remember (s : MemoryStore) (c d : Call) :
    (s.remember c).failure? d = s.failure? d :=
  ((s.same_remember c).failure? d).symm

/-! ## Replies -/

/-- A call gets a result and leaves a store behind: the store fulfils it, shows a failure, is
silent until the call is given up, or the call is given up before it is served. -/
inductive Replies (s : MemoryStore) (c : Call) : c.Result → MemoryStore → Prop where
  | fulfilled {result : c.Result} {t : MemoryStore} (hf : s.failure? c = none)
      (h : (s.remember c).fulfil c = (result, t)) : Replies s c result t
  | failed {f : Failure} {e : StoreError} (hf : s.failure? c = some f)
      (h : f.error? c.target = some e) : Replies s c (.error e) ((s.remember c).betray c f)
  | silent (hf : s.failure? c = some .hang) : Replies s c (.error c.expired) (s.remember c)
  | abandoned : Replies s c (.error c.expired) s

/-- A call that nothing stands in the way of is answered from the contents. -/
theorem serve_of_free {s : MemoryStore} {c : Call} (h : s.failure? c = none) :
    s.serve c = (some ((s.remember c).fulfil c).1, ((s.remember c).fulfil c).2) := by
  have h' : (s.remember c).failure? c = none := (s.failure?_remember c c).trans h
  simp only [serve, h']

theorem serve_of_failure {s : MemoryStore} {c : Call} {f : Failure} (h : s.failure? c = some f) :
    s.serve c = ((f.error? c.target).map .error, (s.remember c).betray c f) := by
  have h' : (s.remember c).failure? c = some f := (s.failure?_remember c c).trans h
  simp only [serve, h']

/-- A store that keeps silent changes nothing. -/
theorem betray_hang (s : MemoryStore) (c : Call) : s.betray c .hang = s := by
  cases c <;> rfl

/-- The store serves a call with a result. -/
def Serves (s : MemoryStore) (c : Call) (result : c.Result) (t : MemoryStore) : Prop :=
  s.serve c = (some result, t)

theorem Serves.replies {s t : MemoryStore} {c : Call} {result : c.Result}
    (h : s.Serves c result t) : s.Replies c result t := by
  unfold Serves at h
  cases hf : s.failure? c with
  | none =>
    rw [serve_of_free hf] at h
    obtain ⟨hr, ht⟩ := Prod.mk.inj h
    refine .fulfilled hf ?_
    rw [← Option.some.inj hr, ← ht]
  | some f =>
    rw [serve_of_failure hf] at h
    obtain ⟨hr, rfl⟩ := Prod.mk.inj h
    obtain ⟨e, he, rfl⟩ := Option.map_eq_some_iff.1 hr
    exact .failed hf he

/-- A call that is not answered ends as one that ran out of time. -/
theorem replies_of_silence {s t : MemoryStore} {c : Call} (h : s.serve c = (none, t)) :
    s.Replies c (.error c.expired) t := by
  cases hf : s.failure? c with
  | none =>
    rw [serve_of_free hf] at h
    cases h
  | some f =>
    rw [serve_of_failure hf] at h
    obtain ⟨hr, rfl⟩ := Prod.mk.inj h
    cases f with
    | hang =>
      rw [betray_hang]
      exact .silent hf
    | unavailable => cases hr
    | invalid => cases hr
    | alreadyExists => cases hr

/-! ## What a call leaves alone -/

/-- The store behind has one more dependent at most, and perhaps another count of creations. -/
inductive Touched (s : MemoryStore) : MemoryStore → Prop where
  | same : Touched s s
  | added (d : Dependent) (n : Nat) : Touched s { s.addDependent d with creations := n }

theorem Touched.instances {s t : MemoryStore} (h : s.Touched t) : t.instances = s.instances := by
  cases h <;> rfl

theorem Touched.calls {s t : MemoryStore} (h : s.Touched t) : t.calls = s.calls := by
  cases h <;> rfl

theorem Touched.failure? {s t : MemoryStore} (h : s.Touched t) (c : Call) :
    t.failure? c = s.failure? c := by
  cases h <;> cases c <;> rfl

theorem touched_fulfil (s : MemoryStore) (c : Call) : s.Touched (s.fulfil c).2 := by
  cases c with
  | getInstance key =>
    simp only [fulfil]
    split <;> exact .same
  | get kind key =>
    simp only [fulfil]
    split <;> exact .same
  | create d =>
    simp only [fulfil]
    split
    · exact .same
    · exact .added d _

theorem touched_betray (s : MemoryStore) (c : Call) (f : Failure) : s.Touched (s.betray c f) := by
  unfold betray
  split
  · unfold addIfAbsent
    split
    · exact .same
    · exact .added _ s.creations
  · exact .same

/-- Serving a call touches the contents by one dependent at most. -/
theorem touched_serve (s : MemoryStore) (c : Call) : (s.remember c).Touched (s.serve c).2 := by
  cases hf : s.failure? c with
  | none =>
    rw [serve_of_free hf]
    exact touched_fulfil _ c
  | some f =>
    rw [serve_of_failure hf]
    exact touched_betray _ c f

/-- No call changes which failures are injected. -/
theorem Replies.failure? {s t : MemoryStore} {c : Call} {result : c.Result}
    (h : s.Replies c result t) (c' : Call) : t.failure? c' = s.failure? c' := by
  rw [← s.failure?_remember c c']
  cases h with
  | fulfilled hf h =>
    have htouched := touched_fulfil (s.remember c) c
    rw [h] at htouched
    exact htouched.failure? c'
  | failed hf h => exact (touched_betray _ c _).failure? c'
  | silent hf => rfl
  | abandoned => exact (s.failure?_remember c c').symm

/-! ## Fetching and looking up -/

/-- Only a creation changes the contents. -/
theorem Replies.same {s t : MemoryStore} {c : Call} {result : c.Result}
    (h : s.Replies c result t) (hc : ∀ d, c ≠ .create d) : s.Same t := by
  cases c with
  | create d => exact absurd rfl (hc d)
  | getInstance key =>
    -- however the call is answered, all that the store keeps of it is its record
    cases h with
    | fulfilled hf h =>
      simp only [fulfil] at h
      split at h <;> cases h <;> exact s.same_remember _
    | failed hf h => exact s.same_remember _
    | silent hf => exact s.same_remember _
    | abandoned => exact .refl s
  | get kind key =>
    cases h with
    | fulfilled hf h =>
      simp only [fulfil] at h
      split at h <;> cases h <;> exact s.same_remember _
    | failed hf h => exact s.same_remember _
    | silent hf => exact s.same_remember _
    | abandoned => exact .refl s

/-- An instance that was fetched is stored. -/
theorem Replies.fetched {s t : MemoryStore} {key : ObjectKey} {i : Instance}
    (h : s.Replies (.getInstance key) (.ok i) t) : s.instances.get? key = some i := by
  cases h with
  | fulfilled hf h =>
    simp only [fulfil] at h
    split at h
    · next j hj =>
      cases h
      exact hj
    · cases h

/-- A dependent that was found is stored. -/
theorem Replies.found {s t : MemoryStore} {kind : Kind} {key : ObjectKey} {d : Dependent}
    (h : s.Replies (.get kind key) (.ok d) t) : s.dependents.get? (kind, key) = some d := by
  cases h with
  | fulfilled hf h =>
    simp only [fulfil] at h
    split at h
    · next d' hd' =>
      cases h
      exact hd'
    · cases h

/-- A dependent that was not found is not stored: no failure and no time limit looks like that. -/
theorem Replies.absent {s t : MemoryStore} {kind : Kind} {key : ObjectKey} {target : String}
    (h : s.Replies (.get kind key) (.error (.notFound target)) t) :
    s.dependents.get? (kind, key) = none := by
  cases h with
  | fulfilled hf h =>
    simp only [fulfil] at h
    split at h
    · cases h
    · assumption
  | failed hf h => exact absurd h Failure.error?_ne_notFound

/-! ## Creating -/

/-- A creation that succeeds stores the object under its kind and key, which was free. -/
theorem Replies.created {s t : MemoryStore} {d : Dependent} (h : s.Replies (.create d) (.ok ()) t) :
    s.createFailures.get d.kind = none ∧ s.dependents.get? (d.kind, d.key) = none ∧
      Same { s.addDependent d with creations := s.creations + 1 } t := by
  cases h with
  | fulfilled hf h =>
    simp only [fulfil] at h
    split at h
    · cases h
    · next hfree =>
      cases h
      refine ⟨hf, ?_, rfl⟩
      simpa [Registry.contains, remember] using hfree

/-- A creation that comes too late leaves the contents as they are, unless the store was made to
act as if someone else had come first. -/
theorem Replies.outrun {s t : MemoryStore} {d : Dependent} {target : String}
    (h : s.Replies (.create d) (.error (.alreadyExists target)) t) :
    ((s.dependents.get? (d.kind, d.key)).isSome ∧ s.createFailures.get d.kind = none ∧ s.Same t) ∨
      (s.createFailures.get d.kind = some .alreadyExists ∧ (s.addIfAbsent d).Same t) := by
  cases h with
  | fulfilled hf h =>
    left
    simp only [fulfil] at h
    split at h
    · next hheld =>
      cases h
      exact ⟨hheld, hf, s.same_remember _⟩
    · cases h
  | @failed f e hf h =>
    right
    cases f with
    | alreadyExists =>
      refine ⟨hf, ?_⟩
      rw [betray, addIfAbsent, addIfAbsent]
      -- someone else comes first only where nothing is yet
      by_cases hheld : s.dependents.contains (d.kind, d.key) = true
      · rw [if_pos hheld, if_pos (show (s.remember _).dependents.contains _ = true from hheld)]
        exact s.same_remember _
      · rw [if_neg hheld, if_neg (show ¬(s.remember _).dependents.contains _ = true from hheld)]
        rfl
    | unavailable => cases h
    | invalid => cases h
    | hang => cases h

/-- A creation that fails in any other way leaves the contents as they are. -/
theorem Replies.refused {s t : MemoryStore} {d : Dependent} {e : StoreError}
    (h : s.Replies (.create d) (.error e) t) (he : e.isAlreadyExists = false) : s.Same t := by
  cases h with
  | fulfilled hf h =>
    simp only [fulfil] at h
    split at h
    · cases h
      exact s.same_remember _
    · cases h
  | @failed f e hf h =>
    cases f with
    | alreadyExists =>
      cases h
      simp [StoreError.isAlreadyExists] at he
    | unavailable => exact s.same_remember _
    | invalid => exact s.same_remember _
    | hang => exact s.same_remember _
  | silent hf => exact s.same_remember _
  | abandoned => exact .refl s

end MemoryStore

end InstanceOperator
