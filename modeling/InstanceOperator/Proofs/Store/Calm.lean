import InstanceOperator.Proofs.Pass.Insertion

/-!
# Stores that serve every call

In a store without failures a call always gets the answer that the contents give. As long as
nothing is removed or replaced, what such an answer has told goes on to hold (`Move.Holds`), with
one exception: that a dependent was not found says nothing about later. This is enough to tell how
a pass ends from the contents at its end, whatever has happened to the store in the meantime
(`passCourse_end`).
-/

namespace InstanceOperator

namespace MemoryStore

/-! ## Stores that only grow -/

/-- The store behind holds what the store before held, and the same instances. -/
structure Grows (s t : MemoryStore) : Prop where
  instances : t.instances = s.instances
  dependents : ∀ k d, s.dependents.get? k = some d → t.dependents.get? k = some d

theorem Grows.refl (s : MemoryStore) : s.Grows s := ⟨rfl, fun _ _ h => h⟩

theorem Grows.trans {s t u : MemoryStore} (h₁ : s.Grows t) (h₂ : t.Grows u) : s.Grows u :=
  ⟨h₂.instances.trans h₁.instances, fun k d h => h₂.dependents k d (h₁.dependents k d h)⟩

theorem Same.grows {s t : MemoryStore} (h : s.Same t) : s.Grows t := by
  constructor
  · exact h.instances.symm
  · intro k d hd
    rw [← h.dependents]
    exact hd

/-- A store that gains a dependent has lost nothing. -/
theorem Gains.grows {s t : MemoryStore} {d : Dependent} (h : s.Gains d t) : s.Grows t := by
  constructor
  · exact h.instances
  · intro k d' hd'
    -- the key that is taken was free, so it is none of those held before
    have hne : (d.kind, d.key) ≠ k := by
      rintro rfl
      rw [h.free] at hd'
      cases hd'
    rw [h.dependents, Registry.get?_insert, if_neg hne]
    exact hd'

theorem Gains.get?_self {s t : MemoryStore} {d : Dependent} (h : s.Gains d t) :
    t.dependents.get? (d.kind, d.key) = some d := by
  rw [h.dependents, Registry.get?_insert, if_pos rfl]

/-! ## Failures -/

/-- Nothing stands in the way of any call. -/
def FailureFree (s : MemoryStore) : Prop := ∀ c, s.failure? c = none

/-- Nothing stands in the way of any call, except that creations may find that someone else has
come first. -/
def Calm (s : MemoryStore) : Prop :=
  ∀ c f, s.failure? c = some f → f = .alreadyExists ∧ ∃ d, c = .create d

/-- A store without failures serves every call. -/
theorem FailureFree.calm {s : MemoryStore} (h : s.FailureFree) : s.Calm := by
  intro c f hf
  rw [h c] at hf
  cases hf

end MemoryStore

/-! ## What a move has told -/

/-- The object that a call has created. -/
def Move.creation? : Move → Option Dependent
  | .asked (.create d) (.ok _) => some d
  | _ => none

/-- What a move has told about a store that serves every call still holds. -/
def Move.Holds (s : MemoryStore) : Move → Prop
  | .asked (.getInstance key) (.ok i) => s.instances.get? key = some i
  | .asked (.getInstance key) (.error e) => e.isNotFound = true ∧ s.instances.get? key = none
  | .asked (.get kind key) (.ok d) => s.dependents.get? (kind, key) = some d
  | .asked (.get _ _) (.error e) => e.isNotFound = true
  | .asked (.create d) (.ok _) => s.dependents.get? (d.kind, d.key) = some d
  | .asked (.create d) (.error e) =>
    e.isAlreadyExists = true ∧ (s.dependents.get? (d.kind, d.key)).isSome
  | .left _ => True

/-- What a move has told goes on to hold while the store only grows. -/
theorem Move.Holds.mono {s t : MemoryStore} (hst : s.Grows t) {m : Move} (h : m.Holds s) :
    m.Holds t := by
  cases m with
  | left e => trivial
  | asked c result =>
    cases c with
    | getInstance key =>
      -- the instances are the same; what is stored besides stays where it is
      cases result with
      | ok i =>
        show t.instances.get? key = some i
        rw [hst.instances]
        exact h
      | error e =>
        show e.isNotFound = true ∧ t.instances.get? key = none
        rw [hst.instances]
        exact h
    | get kind key =>
      cases result with
      | ok d => exact hst.dependents _ _ h
      | error e => exact h
    | create d =>
      cases result with
      | ok _ => exact hst.dependents _ _ h
      | error e =>
        obtain ⟨d', hd'⟩ := Option.isSome_iff_exists.1 h.2
        exact ⟨h.1, Option.isSome_iff_exists.2 ⟨d', hst.dependents _ _ hd'⟩⟩

namespace MemoryStore

/-- In a calm store a call that is no creation is answered from the contents. -/
theorem Calm.fulfil_of_serves {s t : MemoryStore} (hs : s.Calm) {c : Call} {result : c.Result}
    (h : s.Serves c result t) (hc : ∀ d, c ≠ .create d) :
    (s.remember c).fulfil c = (result, t) := by
  have hfree : s.failure? c = none := by
    cases hf : s.failure? c with
    | none => rfl
    | some f =>
      obtain ⟨-, d, hd⟩ := hs c f hf
      exact absurd hd (hc d)
  rw [Serves, serve_of_free hfree] at h
  obtain ⟨hr, ht⟩ := Prod.mk.inj h
  rw [← Option.some.inj hr, ← ht]

theorem isSome_get?_addIfAbsent (s : MemoryStore) (d : Dependent) :
    ((s.addIfAbsent d).dependents.get? (d.kind, d.key)).isSome := by
  unfold addIfAbsent
  split
  · next hheld => exact hheld
  · rw [addDependent, Registry.get?_insert, if_pos rfl]
    rfl

/-- In a calm store a creation that fails has come too late. -/
theorem Calm.isAlreadyExists_of_serves {s t : MemoryStore} (hs : s.Calm) {d : Dependent}
    {e : StoreError} (h : s.Serves (.create d) (.error e) t) :
    e.isAlreadyExists = true := by
  cases hf : s.failure? (.create d) with
  | none =>
    rw [Serves, serve_of_free hf] at h
    simp only [fulfil] at h
    split at h <;> cases h
    rfl
  | some f =>
    -- a calm store fails a creation by a race only
    obtain ⟨rfl, -⟩ := hs _ f hf
    rw [Serves, serve_of_failure hf] at h
    cases h
    rfl

/-- What a calm store has answered holds behind the answer. -/
theorem Calm.holds_of_serves {s t : MemoryStore} (hs : s.Calm) {c : Call} {result : c.Result}
    (h : s.Serves c result t) : (Move.asked c result).Holds t := by
  have hreply : s.Replies c result t := h.replies
  cases c with
  | getInstance key =>
    have hful := hs.fulfil_of_serves h (by simp)
    simp only [fulfil, remember] at hful
    split at hful
    · next i hi =>
      cases hful
      exact hi
    · next hi =>
      cases hful
      exact ⟨rfl, hi⟩
  | get kind key =>
    have hful := hs.fulfil_of_serves h (by simp)
    simp only [fulfil, remember] at hful
    split at hful
    · next d hd =>
      cases hful
      exact hd
    · cases hful
      rfl
  | create d =>
    cases result with
    | ok _ => exact hreply.gains_of_ok.get?_self
    | error e =>
      have he : e.isAlreadyExists = true := hs.isAlreadyExists_of_serves h
      refine ⟨he, ?_⟩
      -- too late: the object was there, or the race has put it there
      obtain ⟨target, rfl⟩ := StoreError.isAlreadyExists_iff.1 he
      rcases hreply.outrun with ⟨hheld, -, hsame⟩ | ⟨-, hsame⟩
      · rw [← hsame.dependents]
        exact hheld
      · rw [← hsame.dependents]
        exact s.isSome_get?_addIfAbsent d

/-- Whatever a call comes to, the store only grows. -/
theorem Replies.grows {s t : MemoryStore} {c : Call} {result : c.Result}
    (h : s.Replies c result t) : s.Grows t := by
  cases c with
  | getInstance key => exact (h.same (by simp)).grows
  | get kind key => exact (h.same (by simp)).grows
  | create d =>
    cases result with
    | ok _ => exact h.gains_of_ok.grows
    | error e =>
      cases he : e.isAlreadyExists with
      | false => exact (h.refused he).grows
      | true =>
        obtain ⟨target, rfl⟩ := StoreError.isAlreadyExists_iff.1 he
        cases hd : s.dependents.get? (d.kind, d.key) with
        | none => exact (h.gains_of_outrun hd).grows
        | some d' =>
          rcases h.outrun with ⟨-, -, hsame⟩ | ⟨-, hsame⟩
          · exact hsame.grows
          · -- the race puts the object only where nothing is
            have hadd : s.addIfAbsent d = s := by
              rw [addIfAbsent, Registry.contains, hd]
              rfl
            rw [hadd] at hsame
            exact hsame.grows

/-- Failures are not added by serving calls. -/
theorem FailureFree.of_replies {s t : MemoryStore} (hs : s.FailureFree) {c : Call}
    {result : c.Result} (h : s.Replies c result t) : t.FailureFree := by
  intro c'
  rw [h.failure? c']
  exact hs c'

theorem Calm.of_replies {s t : MemoryStore} (hs : s.Calm) {c : Call} {result : c.Result}
    (h : s.Replies c result t) : t.Calm := by
  intro c' f hf
  rw [h.failure? c'] at hf
  exact hs c' f hf

/-- A calm store serves every call. -/
theorem Calm.serves {s : MemoryStore} (hs : s.Calm) (c : Call) :
    ∃ result, s.Serves c result (s.serve c).2 := by
  cases hf : s.failure? c with
  | none =>
    refine ⟨((s.remember c).fulfil c).1, ?_⟩
    rw [Serves, serve_of_free hf]
  | some f =>
    obtain ⟨rfl, -⟩ := hs c f hf
    refine ⟨.error (.alreadyExists c.target), ?_⟩
    rw [Serves, serve_of_failure hf]
    rfl

/-- What moves along which a calm store serves have told holds behind all of them. -/
theorem Calm.holds_of_along {s t : MemoryStore} (hs : s.Calm) {ms : List Move}
    (h : Along Serves s ms t) : s.Grows t ∧ ∀ m ∈ ms, m.Holds t := by
  induction ms generalizing s with
  | nil =>
    have ht : t = s := h
    rw [ht]
    refine ⟨.refl s, ?_⟩
    intro m hm
    cases hm
  | cons m ms ih =>
    cases m with
    | left e =>
      obtain ⟨hgrows, hrest⟩ := ih hs h
      exact ⟨hgrows, List.forall_mem_cons.2 ⟨trivial, hrest⟩⟩
    | asked c result =>
      obtain ⟨u, hserves, h⟩ := h
      obtain ⟨hgrows, hrest⟩ := ih (hs.of_replies hserves.replies) h
      -- what the call has told goes on to hold, since the rest of the moves only adds to the store
      have hfirst : (Move.asked c result).Holds t := (hs.holds_of_serves hserves).mono hgrows
      exact ⟨hserves.replies.grows.trans hgrows, List.forall_mem_cons.2 ⟨hfirst, hrest⟩⟩

end MemoryStore

/-! ## How a pass ends -/

/-- Ensuring dependents in order ends in a request for another pass, or all of them are there. -/
theorem series_end {policy : DriftPolicy} {key : ObjectKey} {wants : List Dependent}
    {ms : List Move} {result : PassEnd} (hseries : Series policy key wants ms result)
    {s : MemoryStore} (hholds : ∀ m ∈ ms, m.Holds s) :
    result = .ok .requeue ∨
      (result = .ok .done ∧
        ∀ want ∈ wants, (s.dependents.get? (want.kind, want.key)).isSome) := by
  induction hseries with
  | nil =>
    right
    refine ⟨rfl, ?_⟩
    intro want hwant
    cases hwant
  | @found want rest ms result live tail ih =>
    have hfound : s.dependents.get? (want.kind, want.key) = some live :=
      hholds _ List.mem_cons_self
    have hrest : ∀ m ∈ ms, m.Holds s := by
      intro m hm
      exact hholds m (List.mem_cons_of_mem _ (List.mem_append_right _ hm))
    rcases ih hrest with hrequeue | ⟨hdone, hall⟩
    · exact .inl hrequeue
    · right
      refine ⟨hdone, ?_⟩
      intro w hw
      rcases List.mem_cons.1 hw with rfl | hw
      · rw [hfound]
        rfl
      · exact hall w hw
  | unseen e he =>
    -- a calm store fails a lookup only by not finding anything
    have hlook : e.isNotFound = true := hholds _ List.mem_cons_self
    rw [he] at hlook
    cases hlook
  | created target => exact .inl rfl
  | outrun target target' => exact .inl rfl
  | @refused want rest target e he =>
    -- and a creation only by its coming too late
    have hmade : (Move.asked (.create want) (.error e)).Holds s := hholds _ (by simp)
    rw [Move.Holds, he] at hmade
    cases hmade.1

/-- How a pass ends if what its moves have told holds of a store, and the instance of its key has a
desired state if there is one: with a request for another pass; or the pass is done, and unless the
instance is missing or on its way out, all its dependents are there. -/
theorem passCourse_end {policy : DriftPolicy} {key : ObjectKey} {ms : List Move}
    {result : PassEnd} (hcourse : PassCourse policy key ms result) {s : MemoryStore}
    (hholds : ∀ m ∈ ms, m.Holds s)
    (haccepted : ∀ i, s.instances.get? key = some i → ∃ desired, desiredState i = .ok desired) :
    result = .ok .requeue ∨
      (result = .ok .done ∧
        ∀ i desired, s.instances.get? key = some i → i.metadata.deletionTimestamp = none →
          desiredState i = .ok desired →
          ∀ kind, (s.dependents.get? (kind, (desired.get kind).key)).isSome) := by
  cases hcourse with
  | absent target =>
    have habsent : s.instances.get? key = none := (hholds _ List.mem_cons_self).2
    right
    refine ⟨rfl, ?_⟩
    intro i desired hi
    rw [habsent] at hi
    cases hi
  | unfetched e he =>
    -- a calm store fails to fetch an instance only if there is none
    have hfetch := (hholds _ List.mem_cons_self).1
    rw [he] at hfetch
    cases hfetch
  | terminating i hi =>
    have hstored : s.instances.get? key = some i := hholds _ List.mem_cons_self
    right
    refine ⟨rfl, ?_⟩
    intro j desired hj hlive
    rw [hstored] at hj
    cases hj
    rw [hlive] at hi
    cases hi
  | malformed i cause hi hd =>
    have hstored : s.instances.get? key = some i := hholds _ List.mem_cons_self
    -- the instance that was fetched is the stored one, which has a desired state
    obtain ⟨desired, hdesired⟩ := haccepted i hstored
    rw [hd] at hdesired
    cases hdesired
  | served i desired hi hd hs =>
    have hstored : s.instances.get? key = some i := hholds _ List.mem_cons_self
    have hrest := fun m hm => hholds m (List.mem_cons_of_mem _ hm)
    rcases series_end hs hrest with hrequeue | ⟨hdone, hall⟩
    · exact .inl hrequeue
    · right
      refine ⟨hdone, ?_⟩
      intro j desired' hj _ hd' kind
      rw [hstored] at hj
      cases hj
      rw [hd] at hd'
      cases hd'
      have hwant : desired.get kind ∈ desired.inOrder :=
        List.mem_map.2 ⟨kind, kind.mem_ordered, rfl⟩
      have hsome := hall _ hwant
      rw [kind_get_of_desiredState hd] at hsome
      exact hsome

end InstanceOperator
