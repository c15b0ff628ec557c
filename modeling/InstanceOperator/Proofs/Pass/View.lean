import InstanceOperator.Proofs.Pass.Convergence
import InstanceOperator.Proofs.Pass.Deadline

/-!
# What a pass sees of a store

A pass for an instance deals with the instance's own part of a store: the instance itself, and the
places of the dependents desired for it. On two stores that look alike there, and in which the same
calls fail, it makes the same moves, ends in the same way and takes the same time, and behind it the
stores look alike there again. A pass for another instance leaves this part of a store as it is.

`MemoryStore.SeenAlike` says that stores look alike from a key and some places. It is kept by every
call that is about these, hence by every program that makes no other calls (`Program.Within`).

* `SeenAlike.serve`, `Program.Within.run`: one call and a run on stores that look alike.
* `Turn.seenAlike_own`: a pass for an instance, on stores that look alike from there.
* `Turn.seenAlike_other`: a pass for another instance.
-/

namespace InstanceOperator

/-- Where a dependent is stored. -/
abbrev Place := Kind × ObjectKey

/-- The call is about the instance of a key, or about one of some places. -/
def Call.Within (key : ObjectKey) (places : Place → Prop) : Call → Prop
  | .getInstance key' => key' = key
  | .get kind key' => places (kind, key')
  | .create d => places (d.kind, d.key)

namespace MemoryStore

/-- From a key and some places, two stores look alike. -/
structure SeenAlike (key : ObjectKey) (places : Place → Prop) (s t : MemoryStore) : Prop where
  stored : s.instances.get? key = t.instances.get? key
  failures : ∀ c, s.failure? c = t.failure? c
  dependents : ∀ k, places k → s.dependents.get? k = t.dependents.get? k

variable {key : ObjectKey} {places : Place → Prop} {s t u : MemoryStore} {c : Call}

theorem SeenAlike.refl (s : MemoryStore) : SeenAlike key places s s :=
  ⟨rfl, fun _ => rfl, fun _ _ => rfl⟩

theorem SeenAlike.symm (h : SeenAlike key places s t) : SeenAlike key places t s :=
  ⟨h.stored.symm, fun c => (h.failures c).symm, fun k hk => (h.dependents k hk).symm⟩

theorem SeenAlike.trans (h₁ : SeenAlike key places s t) (h₂ : SeenAlike key places t u) :
    SeenAlike key places s u :=
  ⟨h₁.stored.trans h₂.stored, fun c => (h₁.failures c).trans (h₂.failures c),
    fun k hk => (h₁.dependents k hk).trans (h₂.dependents k hk)⟩

theorem SeenAlike.contains (h : SeenAlike key places s t) {k : Place} (hk : places k) :
    s.dependents.contains k = t.dependents.contains k := by
  rw [Registry.contains, Registry.contains, h.dependents k hk]

/-! ### One call -/

/-- Remembering a call is the same on both stores. -/
theorem SeenAlike.remember (h : SeenAlike key places s t) (c : Call) :
    SeenAlike key places (s.remember c) (t.remember c) := by
  constructor
  · exact h.stored
  · intro c'
    rw [failure?_remember, failure?_remember]
    exact h.failures c'
  · exact h.dependents

/-- The count of creations is not seen. -/
theorem SeenAlike.addDependent (h : SeenAlike key places s t) (d : Dependent) (n m : Nat) :
    SeenAlike key places { s.addDependent d with creations := n }
      { t.addDependent d with creations := m } := by
  constructor
  · exact h.stored
  · intro c
    have hs := (Touched.added d n : s.Touched _).failure? c
    have ht := (Touched.added d m : t.Touched _).failure? c
    rw [hs, ht]
    exact h.failures c
  · intro k hk
    show (s.dependents.insert _ d).get? k = (t.dependents.insert _ d).get? k
    rw [Registry.get?_insert, Registry.get?_insert, h.dependents k hk]

/-- A call about what is seen gets the same answer from stores that look alike, and leaves them
alike. -/
theorem SeenAlike.fulfil (h : SeenAlike key places s t) (hc : c.Within key places) :
    (s.fulfil c).1 = (t.fulfil c).1 ∧ SeenAlike key places (s.fulfil c).2 (t.fulfil c).2 := by
  cases c with
  | getInstance key' =>
    obtain rfl : key' = key := hc
    simp only [MemoryStore.fulfil, h.stored]
    split <;> exact ⟨rfl, h⟩
  | get kind key' =>
    simp only [MemoryStore.fulfil, h.dependents _ hc]
    split <;> exact ⟨rfl, h⟩
  | create d =>
    simp only [MemoryStore.fulfil, h.contains hc]
    split
    · exact ⟨rfl, h⟩
    · exact ⟨rfl, h.addDependent d _ _⟩

/-- A failing call does the same to stores that look alike. -/
theorem SeenAlike.betray (h : SeenAlike key places s t) (hc : c.Within key places) (f : Failure) :
    SeenAlike key places (s.betray c f) (t.betray c f) := by
  unfold MemoryStore.betray
  split
  · -- someone else has created what was to be created here
    simp only [addIfAbsent, h.contains hc]
    split
    · exact h
    · exact h.addDependent _ s.creations t.creations
  · exact h

/-- A call that is about what looks alike gets the same answer, and then it still looks alike. -/
theorem SeenAlike.serve (h : SeenAlike key places s t) (hc : c.Within key places) :
    (s.serve c).1 = (t.serve c).1 ∧ SeenAlike key places (s.serve c).2 (t.serve c).2 := by
  have hremember := h.remember c
  cases hs : s.failure? c with
  | none =>
    have ht : t.failure? c = none := (h.failures c).symm.trans hs
    obtain ⟨hresult, hbehind⟩ := hremember.fulfil hc
    rw [serve_of_free hs, serve_of_free ht]
    exact ⟨congrArg some hresult, hbehind⟩
  | some f =>
    have ht : t.failure? c = some f := (h.failures c).symm.trans hs
    rw [serve_of_failure hs, serve_of_failure ht]
    exact ⟨rfl, hremember.betray hc f⟩

end MemoryStore

/-! ## Runs -/

/-- Two states of runs that have taken the same time, on stores that look alike. -/
structure Run.SeenAlike (key : ObjectKey) (places : Place → Prop) (r r' : Run) : Prop where
  store : MemoryStore.SeenAlike key places r.store r'.store
  now : r.now = r'.now
  made : r.made = r'.made

/-- The program makes no other calls, whatever it is answered. -/
def Program.Within {α : Type} (key : ObjectKey) (places : Place → Prop) : Program α → Prop
  | .done _ => True
  | .emit _ rest => rest.Within key places
  | .ask _ c rest => c.Within key places ∧ ∀ result, (rest result).Within key places

section runs

variable {key : ObjectKey} {places : Place → Prop} {r r' : Run}

/-- With the same waits and the same deadline a call comes to the same, whether it is served or
given up. -/
theorem Run.SeenAlike.answer (h : Run.SeenAlike key places r r') {c : Call}
    (hc : c.Within key places) (waits : Waits) (d : Instant) :
    (r.answer waits d c).1 = (r'.answer waits d c).1 ∧
      Run.SeenAlike key places (r.answer waits d c).2 (r'.answer waits d c).2 := by
  obtain ⟨hstore, hnow, hmade⟩ := h
  obtain ⟨hresult, hbehind⟩ := hstore.serve hc
  have hpatience : r'.patience d = r.patience d := by
    rw [Run.patience, Run.patience, hnow]
  -- both runs show one time, so the call is in time for both or for neither
  by_cases hin : ∃ wait, waits r.made c = some wait ∧ r.now + wait ≤ r.patience d
  · obtain ⟨wait, hwait, hle⟩ := hin
    have hwait' : waits r'.made c = some wait := hmade ▸ hwait
    have hle' : r'.now + wait ≤ r'.patience d := by
      rw [hpatience, ← hnow]
      exact hle
    rw [Run.answer_of_inTime hwait hle, Run.answer_of_inTime hwait' hle', hresult, hpatience, hnow,
      hmade]
    exact ⟨rfl, hbehind, rfl, rfl⟩
  · have hover : ∀ wait, waits r.made c = some wait → ¬ r.now + wait ≤ r.patience d :=
      fun wait hwait hle => hin ⟨wait, hwait, hle⟩
    have hover' : ∀ wait, waits r'.made c = some wait → ¬ r'.now + wait ≤ r'.patience d := by
      rw [← hmade, ← hnow, hpatience]
      exact hover
    rw [Run.answer_of_overdue hover, Run.answer_of_overdue hover']
    exact ⟨rfl, hstore, hpatience.symm, congrArg (· + 1) hmade⟩

/-- A program that makes no other calls does the same on stores that look alike, and then they still
look alike. -/
theorem Program.Within.run {α : Type} {p : Program α} (hp : p.Within key places)
    (h : Run.SeenAlike key places r r') (waits : Waits) :
    p.moves waits r = p.moves waits r' ∧
      (p.run waits r).1 = (p.run waits r').1 ∧
      Run.SeenAlike key places (p.run waits r).2 (p.run waits r').2 := by
  induction p generalizing r r' with
  | done a => exact ⟨rfl, rfl, h⟩
  | emit e rest ih =>
    have hleft : Run.SeenAlike key places (r.leave e) (r'.leave e) := ⟨h.store, h.now, h.made⟩
    obtain ⟨hmoves, hvalue, hbehind⟩ := ih hp hleft
    exact ⟨congrArg (Move.left e :: ·) hmoves, hvalue, hbehind⟩
  | ask d c rest ih =>
    obtain ⟨hc, hrest⟩ := hp
    obtain ⟨hresult, hanswered⟩ := h.answer hc waits d
    -- the answers are the same, so both runs go on with the same program
    obtain ⟨hmoves, hvalue, hbehind⟩ := ih _ (hrest _) hanswered
    simp only [Program.moves, Program.run_ask]
    rw [← hresult]
    exact ⟨congrArg _ hmoves, hvalue, hbehind⟩

end runs

/-! ## Passes -/

section passes

variable {deadline : Instant} {policy : DriftPolicy} {key : ObjectKey} {places : Place → Prop}

theorem reportDrift_within {α : Type} {want live : Dependent} {rest : Program α}
    (h : rest.Within key places) : (reportDrift policy want live rest).Within key places := by
  unfold reportDrift
  split <;> exact h

/-- A pass asks for its own dependents only. -/
theorem converge_within {wants : List Dependent}
    (h : ∀ want ∈ wants, places (want.kind, want.key)) :
    (converge deadline policy key wants).Within key places := by
  induction wants with
  | nil => trivial
  | cons want rest ih =>
    have hwant := h want List.mem_cons_self
    have hrest := ih fun d hd => h d (List.mem_cons_of_mem _ hd)
    refine ⟨hwant, ?_⟩
    intro looked
    apply settleLookup_elim
    · intro live _
      exact reportDrift_within hrest
    · intro e _ _
      -- what is created is what was looked up
      refine ⟨hwant, ?_⟩
      intro made
      apply settleCreate_elim <;> intros <;> trivial
    · intro e _ _
      trivial

/-- Behind the fetching of its instance, a pass asks for the desired dependents only. -/
theorem settleFetch_within {fetched : Except StoreError Instance}
    (h : ∀ i desired kind, fetched = .ok i → desiredState i = .ok desired →
      places (kind, (desired.get kind).key)) :
    (settleFetch deadline policy key fetched).Within key places := by
  apply settleFetch_elim
  case served =>
    intro i desired hfetched hd
    apply converge_within
    intro want hwant
    obtain ⟨kind, -, rfl⟩ := List.mem_map.1 hwant
    rw [kind_get_of_desiredState hd]
    exact h i desired kind hfetched hd
  all_goals intros; trivial

end passes

/-! ## One instance and the others -/

namespace MemoryStore

/-- The places of the dependents that are desired for the instance of a key. -/
def placesFor (s : MemoryStore) (key : ObjectKey) (k : Place) : Prop :=
  ∃ d, DesiredFor s key k d

/-- The places of an instance go by the instance that is stored. -/
theorem placesFor_congr {s t : MemoryStore} (h : t.instances = s.instances) (key : ObjectKey) :
    t.placesFor key = s.placesFor key := by
  unfold placesFor DesiredFor
  rw [h]

/-- No place is for two instances. -/
theorem Filed.eq_of_placesFor {s : MemoryStore} (hs : s.Filed) {key key' : ObjectKey} {k : Place}
    (h : s.placesFor key k) (h' : s.placesFor key' k) : key = key' := by
  obtain ⟨_, i, desired, kind, hi, hd, rfl, -⟩ := h
  obtain ⟨_, j, desired', kind', hj, hd', hk, -⟩ := h'
  obtain ⟨rfl, hkey⟩ := Prod.mk.inj hk
  -- the name of a dependent tells the instance
  exact hs.key_inj hi hd hj hd' hkey

end MemoryStore

namespace Turn

def moves (turn : Turn) (s : MemoryStore) : List Move :=
  (pass turn.deadline turn.policy turn.key).moves turn.waits { store := s }

/-- The time that the pass takes, in nanoseconds. -/
def elapsed (turn : Turn) (s : MemoryStore) : Nat :=
  ((pass turn.deadline turn.policy turn.key).run turn.waits { store := s }).2.now.toNat

variable (turn : Turn) {s t : MemoryStore}

/-- A pass for an instance does the same on stores that look alike from the instance. -/
theorem seenAlike_own (h : MemoryStore.SeenAlike turn.key (s.placesFor turn.key) s t) :
    turn.moves s = turn.moves t ∧ turn.result s = turn.result t ∧
      turn.elapsed s = turn.elapsed t ∧
      MemoryStore.SeenAlike turn.key (s.placesFor turn.key) (turn.after s) (turn.after t) := by
  have hstart : Run.SeenAlike turn.key (s.placesFor turn.key) { store := s } { store := t } :=
    ⟨h, rfl, rfl⟩
  have hfetch : (Call.getInstance turn.key).Within turn.key (s.placesFor turn.key) := rfl
  obtain ⟨hresult, hanswered⟩ := hstart.answer hfetch turn.waits turn.deadline
  have hreply := answer_replies turn.waits { store := s } turn.deadline (.getInstance turn.key)
  -- the places of the fetched instance are those of the stored one
  have hrest : (settleFetch turn.deadline turn.policy turn.key
      (Run.answer turn.waits { store := s } turn.deadline (.getInstance turn.key)).1).Within
      turn.key (s.placesFor turn.key) := by
    apply settleFetch_within
    intro i desired kind hfetched hd
    rw [hfetched] at hreply
    exact ⟨_, i, desired, kind, hreply.fetched, hd, rfl, rfl⟩
  obtain ⟨hmoves, hvalue, hbehind⟩ := hrest.run hanswered turn.waits
  unfold Turn.moves Turn.result Turn.elapsed Turn.after pass
  simp only [Program.moves, Program.run_ask]
  rw [← hresult]
  exact ⟨congrArg _ hmoves, hvalue, congrArg Int.toNat hbehind.now, hbehind.store⟩

/-- A pass for another instance is not seen from an instance. -/
theorem seenAlike_other (hs : s.Filed) {key : ObjectKey} (hne : turn.key ≠ key) :
    MemoryStore.SeenAlike key (s.placesFor key) s (turn.after s) := by
  have hleaves := turn.leaves s
  constructor
  · rw [hleaves.instances]
  · intro c
    exact (hleaves.failure? c).symm
  · intro k hk
    cases hbefore : s.dependents.get? k with
    | some d => exact (hleaves.grows.dependents k d hbefore).symm
    | none =>
      cases hafter : (turn.after s).dependents.get? k with
      | none => rfl
      | some d =>
        -- what has come into being is desired for the other instance, whose places are others
        have hother : s.placesFor turn.key k := ⟨d, hleaves.desiredFor hafter hbefore⟩
        exact absurd (hs.eq_of_placesFor hother hk) hne

end Turn

end InstanceOperator
