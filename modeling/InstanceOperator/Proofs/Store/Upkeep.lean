import InstanceOperator.Proofs.Drift.Difference
import InstanceOperator.Proofs.Pass.Journal
import InstanceOperator.Proofs.Site.Ledger
import InstanceOperator.Proofs.Store.Calm
import InstanceOperator.Proofs.Store.Filing

/-!
# A store over time

A store in memory that is empty at first is changed again and again: objects are stored, deleted and
created, calls are made and made to fail. Two things are kept by every change: what is stored stands
where it belongs (`MemoryStore.Reachable.filed`, `MemoryStore.Reachable.placed`), and what the store
remembers agrees with the exchanges that there have been (`MemoryStore.calls_behind`,
`MemoryStore.creations_behind`).

A lookup therefore finds a dependent of the kind that was asked for, and whoever ensures a dependent
never comes to compare it with one of another kind (`MemoryStore.Placed.ensured_same_kind`).

* `MemoryStore.behind`: the store behind changes.
* `MemoryStore.exchanges`: the calls among changes, with what came of them.
* `Change.calls_apply`, `Change.creations_apply`: what one change leaves to be remembered.
* `MemoryStore.Tidy`: what holds of every store that comes about.
* `store_keeps_order`: the result, for every sequence of changes.
-/

namespace InstanceOperator

namespace MemoryStore

/-! ## Where dependents are stored -/

/-- Every dependent is stored under its own kind and key. -/
def Placed (s : MemoryStore) : Prop :=
  ∀ place d, s.dependents.get? place = some d → place = (d.kind, d.key)

theorem Placed.of_dependents {s t : MemoryStore} (hs : s.Placed)
    (h : t.dependents = s.dependents) : t.Placed := by
  intro place d hd
  rw [h] at hd
  exact hs place d hd

theorem placed_empty : Placed {} := by
  intro place d hd
  cases hd

/-- A dependent is stored under its own kind and key. -/
theorem Placed.addDependent {s : MemoryStore} (hs : s.Placed) (d : Dependent) :
    (s.addDependent d).Placed := by
  intro place d' hd'
  rw [MemoryStore.addDependent, Registry.get?_insert] at hd'
  by_cases hplace : (d.kind, d.key) = place
  · rw [if_pos hplace] at hd'
    cases hd'
    exact hplace.symm
  · rw [if_neg hplace] at hd'
    exact hs place d' hd'

/-- What is taken away leaves the rest where it is. -/
theorem Placed.deleteInstance {s : MemoryStore} (hs : s.Placed) (key : ObjectKey) :
    (s.deleteInstance key).Placed := by
  unfold MemoryStore.deleteInstance
  split
  · exact hs
  · next i hi =>
    cases i.metadata.uid with
    | none => exact hs
    | some uid =>
      -- a dependent that is left was there before, at the same place
      intro place d hd
      have hkept : (s.dependents.filter fun _ d => !ownedBy d uid).get? place = some d := hd
      rw [Registry.get?_filter, Option.filter_eq_some_iff] at hkept
      exact hs place d hkept.1

theorem Touched.placed {s t : MemoryStore} (h : s.Touched t) (hs : s.Placed) : t.Placed := by
  cases h with
  | same => exact hs
  | added d n => exact (hs.addDependent d).of_dependents rfl

/-- In every store that comes about, dependents are stored under their own kind and key. -/
theorem Reachable.placed {s : MemoryStore} (h : s.Reachable) : s.Placed := by
  induction h with
  | empty => exact placed_empty
  | addInstance h i ih => exact ih.of_dependents rfl
  | addDependent h d ih => exact ih.addDependent d
  | deleteInstance h key ih => exact ih.deleteInstance key
  | failInstance h key f ih => exact ih.of_dependents rfl
  | failLookup h kind f ih => exact ih.of_dependents rfl
  | failCreate h kind f ih => exact ih.of_dependents rfl
  | clearFailures h ih => exact ih.of_dependents rfl
  | resetCalls h ih => exact ih.of_dependents rfl
  | @serve s h c ih => exact (s.touched_serve c).placed (ih.of_dependents rfl)

/-- Changes lead from one reachable store to another. -/
theorem Reachable.change {s : MemoryStore} (h : s.Reachable) (ch : Change) :
    (ch.apply s).Reachable := by
  cases ch with
  | addInstance i => exact h.addInstance i
  | addDependent d => exact h.addDependent d
  | deleteInstance key => exact h.deleteInstance key
  | failInstance key f => exact h.failInstance key f
  | failLookup kind f => exact h.failLookup kind f
  | failCreate kind f => exact h.failCreate kind f
  | clearFailures => exact h.clearFailures
  | resetCalls => exact h.resetCalls
  | call c => exact h.serve c

/-! ## Looking up -/

/-- A dependent that is found has the kind and the key that were asked for. -/
theorem Placed.of_found {s t : MemoryStore} (hs : s.Placed) {kind : Kind} {key : ObjectKey}
    {d : Dependent} (h : s.Replies (.get kind key) (.ok d) t) : d.kind = kind ∧ d.key = key := by
  obtain ⟨rfl, rfl⟩ := Prod.mk.inj (hs (kind, key) d h.found)
  exact ⟨rfl, rfl⟩

/-- Ensuring a dependent never comes to compare it with one of another kind. -/
theorem Placed.ensured_same_kind {s t : MemoryStore} (hs : s.Placed) {deadline : Instant}
    {policy : DriftPolicy} {want : Dependent} {ms : List Move} {o : Outcome}
    (h : (ensure deadline policy want).Course ms o) (halong : Along Replies s ms t) {kind : Kind}
    {key : ObjectKey} {differences : List Difference}
    (hleft : .left (.log (.drifted kind key differences)) ∈ ms) (k l : Kind) :
    .kind k l ∉ differences := by
  cases ensured_of_course h with
  | found live =>
    rcases List.mem_cons.1 hleft with hleft | hleft
    · cases hleft
    · rcases mem_driftMoves hleft with hleft | hleft
      · -- what was compared is what the lookup has found
        cases hleft
        obtain ⟨u, hfound, -⟩ := halong
        intro hkind
        exact kind_mem_detectDrift_iff.1 ⟨k, l, hkind⟩ (hs.of_found hfound).1
      · cases hleft
  | unseen e he => simp at hleft
  | created target => simp at hleft
  | outrun target target' => simp at hleft
  | refused target e he => simp at hleft

/-! ## Creating -/

section creating

variable (s : MemoryStore) (d : Dependent)

/-- What a store makes of a call is a reply, also if the call is never answered. -/
theorem exists_replies (c : Call) :
    ∃ result, s.Replies c result (s.serve c).2 ∧
      ((s.serve c).1 = some result ∨ ((s.serve c).1 = none ∧ result = .error c.expired)) := by
  cases hserve : s.serve c with
  | mk answer t =>
    cases answer with
    | some result => exact ⟨result, Serves.replies hserve, .inl rfl⟩
    | none => exact ⟨.error c.expired, replies_of_silence hserve, .inr ⟨rfl, rfl⟩⟩

/-- A creation succeeds exactly if nothing makes it fail and its place is free. -/
theorem serve_create_eq_ok_iff :
    (s.serve (.create d)).1 = some (.ok ()) ↔
      s.createFailures.get d.kind = none ∧ s.dependents.get? (d.kind, d.key) = none := by
  constructor
  · intro h
    have hreply : s.Replies (.create d) (.ok ()) (s.serve (.create d)).2 :=
      Serves.replies (Prod.ext h rfl)
    exact ⟨hreply.created.1, hreply.created.2.1⟩
  · rintro ⟨hfree, hplace⟩
    have hvacant : (s.remember (.create d)).dependents.contains (d.kind, d.key) = false := by
      show s.dependents.contains (d.kind, d.key) = false
      rw [Registry.contains, hplace]
      rfl
    have hfree' : s.failure? (.create d) = none := hfree
    rw [serve_of_free hfree']
    simp [fulfil, hvacant]

/-- A creation that does not succeed leaves the contents as they are, unless the store was made to
act as if someone else had come first. -/
theorem same_of_serve_create (hfail : (s.serve (.create d)).1 ≠ some (.ok ()))
    (hfair : s.createFailures.get d.kind ≠ some .alreadyExists) :
    s.Same (s.serve (.create d)).2 := by
  obtain ⟨result, hreply, hresult⟩ := s.exists_replies (.create d)
  rcases result with e | ⟨⟩
  · cases he : e.isAlreadyExists with
    | false => exact hreply.refused he
    | true =>
      obtain ⟨target, rfl⟩ := StoreError.isAlreadyExists_iff.1 he
      rcases hreply.outrun with ⟨-, -, hsame⟩ | ⟨hinjected, -⟩
      · exact hsame
      · exact absurd hinjected hfair
  · rcases hresult with hresult | ⟨-, hresult⟩
    · exact absurd hresult hfail
    · cases hresult

end creating

end MemoryStore

/-! ## Exchanges -/

/-- A call and what came of it. There is no result if the call was never answered. -/
structure Exchange where
  call : Call
  result : Option call.Result

/-- A dependent has been created. -/
def Exchange.creates : Exchange → Bool
  | ⟨.create _, some (.ok _)⟩ => true
  | _ => false

/-- The exchange that a change amounts to, if it is a call. -/
def Change.exchange? (s : MemoryStore) : Change → Option Exchange
  | .call c => some ⟨c, (s.serve c).1⟩
  | _ => none

/-- One call is counted exactly if it has created something. -/
theorem MemoryStore.creations_serve (s : MemoryStore) (c : Call) :
    (s.serve c).2.creations = s.creations + (Exchange.creates ⟨c, (s.serve c).1⟩).toNat := by
  obtain ⟨result, hreply, hresult | ⟨hresult, rfl⟩⟩ := s.exists_replies c
  · rw [hreply.creations, hresult]
    cases c <;> cases result <;> rfl
  · rw [hreply.creations, hresult]
    cases c <;> rfl

/-- A call is remembered, and nothing else is. -/
theorem Change.calls_apply (s : MemoryStore) {ch : Change} (hkeep : ch ≠ .resetCalls) :
    (ch.apply s).calls = s.calls ++ (ch.exchange? s).toList.map fun x => x.call.record := by
  cases ch with
  | call c => exact (s.touched_serve c).calls
  | resetCalls => exact absurd rfl hkeep
  | deleteInstance key =>
    have hsame : (s.deleteInstance key).calls = s.calls := by
      unfold MemoryStore.deleteInstance
      split <;> rfl
    exact hsame.trans (List.append_nil _).symm
  | addInstance i => exact (List.append_nil _).symm
  | addDependent d => exact (List.append_nil _).symm
  | failInstance key f => exact (List.append_nil _).symm
  | failLookup kind f => exact (List.append_nil _).symm
  | failCreate kind f => exact (List.append_nil _).symm
  | clearFailures => exact (List.append_nil _).symm

/-- A creation that succeeds is counted, and nothing else is. -/
theorem Change.creations_apply (s : MemoryStore) (ch : Change) :
    (ch.apply s).creations = s.creations + (ch.exchange? s).toList.countP Exchange.creates := by
  cases ch with
  | call c =>
    have hone : [(⟨c, (s.serve c).1⟩ : Exchange)].countP Exchange.creates =
        (Exchange.creates ⟨c, (s.serve c).1⟩).toNat := by
      rw [countP_cons_toNat, List.countP_nil, Nat.zero_add]
    exact (s.creations_serve c).trans (congrArg (s.creations + ·) hone.symm)
  | deleteInstance key =>
    show (s.deleteInstance key).creations = s.creations
    unfold MemoryStore.deleteInstance
    split <;> rfl
  | addInstance i => rfl
  | addDependent d => rfl
  | failInstance key f => rfl
  | failLookup kind f => rfl
  | failCreate kind f => rfl
  | clearFailures => rfl
  | resetCalls => rfl

namespace MemoryStore

/-! ## Changes one after the other -/

/-- The store behind changes that are made one after the other. -/
def behind : MemoryStore → List Change → MemoryStore
  | s, [] => s
  | s, ch :: rest => (ch.apply s).behind rest

/-- The exchanges among changes that are made one after the other, in order. -/
def exchanges : MemoryStore → List Change → List Exchange
  | _, [] => []
  | s, ch :: rest => (ch.exchange? s).toList ++ (ch.apply s).exchanges rest

theorem behind_append (s : MemoryStore) (earlier later : List Change) :
    s.behind (earlier ++ later) = (s.behind earlier).behind later := by
  induction earlier generalizing s with
  | nil => rfl
  | cons ch earlier ih => exact ih (ch.apply s)

theorem Reachable.behind {s : MemoryStore} (h : s.Reachable) (changes : List Change) :
    (s.behind changes).Reachable := by
  induction changes generalizing s with
  | nil => exact h
  | cons ch changes ih => exact ih (h.change ch)

/-- The store remembers every call, once and in order, as long as it is not told to forget them. -/
theorem calls_behind (s : MemoryStore) {changes : List Change} (hkeep : .resetCalls ∉ changes) :
    (s.behind changes).calls = s.calls ++ (s.exchanges changes).map fun x => x.call.record := by
  induction changes generalizing s with
  | nil => exact (List.append_nil _).symm
  | cons ch changes ih =>
    have hch : ch ≠ .resetCalls := by
      rintro rfl
      exact hkeep List.mem_cons_self
    have hrest := ih (ch.apply s) fun h => hkeep (List.mem_cons_of_mem _ h)
    rw [Change.calls_apply s hch, List.append_assoc, ← List.map_append] at hrest
    exact hrest

/-- The store counts the creations that succeed, and nothing else. -/
theorem creations_behind (s : MemoryStore) (changes : List Change) :
    (s.behind changes).creations =
      s.creations + (s.exchanges changes).countP Exchange.creates := by
  induction changes generalizing s with
  | nil => rfl
  | cons ch changes ih =>
    have hrest := ih (ch.apply s)
    rw [Change.creations_apply s ch, Nat.add_assoc, ← List.countP_append] at hrest
    exact hrest

/-! ## The result -/

/-- What is stored stands where it belongs, and lookups and creations go by it. -/
structure Tidy (s : MemoryStore) : Prop where
  /-- An instance is stored under its namespace, which may be empty, and its name. -/
  instances : ∀ key i, s.instances.get? key = some i →
    key = ⟨i.metadata.ns.getD "", i.metadata.nameAny⟩
  /-- A dependent is stored under its kind and key. -/
  dependents : ∀ kind key d, s.dependents.get? (kind, key) = some d → d.kind = kind ∧ d.key = key
  /-- A lookup that succeeds finds a dependent of the kind and key that it asks for. -/
  lookups : ∀ kind key d, (s.serve (.get kind key)).1 = some (.ok d) → d.kind = kind ∧ d.key = key
  /-- Ensuring a dependent reports no difference of kinds. -/
  reports : ∀ deadline policy want waits kind key differences,
    .log (.drifted kind key differences) ∈
      ((ensure deadline policy want).run waits { store := s }).2.effects →
    ∀ k l, .kind k l ∉ differences
  /-- A creation succeeds exactly if nothing makes it fail and its place is free. -/
  creates : ∀ d, (s.serve (.create d)).1 = some (.ok ()) ↔
    s.createFailures.get d.kind = none ∧ s.dependents.get? (d.kind, d.key) = none
  /-- A creation replaces nothing. -/
  keeps : ∀ d, s.Grows (s.serve (.create d)).2
  /-- A creation that does not succeed changes nothing, unless the store was made to act as if
  someone else had come first. -/
  refuses : ∀ d, (s.serve (.create d)).1 ≠ some (.ok ()) →
    s.createFailures.get d.kind ≠ some .alreadyExists →
    (s.serve (.create d)).2.instances = s.instances ∧
      (s.serve (.create d)).2.dependents = s.dependents

/-- A reachable store answers lookups and creations by what it holds, and what it holds is in its
place. -/
theorem Reachable.tidy {s : MemoryStore} (h : s.Reachable) : s.Tidy where
  instances key i hi := (h.filed key i hi).symm
  dependents kind key d hd := by
    obtain ⟨rfl, rfl⟩ := Prod.mk.inj (h.placed (kind, key) d hd)
    exact ⟨rfl, rfl⟩
  lookups kind key d hd := by
    have hreply : s.Replies (.get kind key) (.ok d) (s.serve (.get kind key)).2 :=
      Serves.replies (Prod.ext hd rfl)
    exact h.placed.of_found hreply
  reports deadline policy want waits kind key differences hmem := by
    rw [effects_run] at hmem
    -- the trace belongs to a course of `ensure` along the store
    obtain ⟨m, hm, hleft⟩ := List.mem_filterMap.1 hmem
    cases m with
    | asked c result => cases hleft
    | left e =>
      cases hleft
      have hcourse := course_moves waits (ensure deadline policy want) { store := s }
      have halong := along_moves waits (ensure deadline policy want) { store := s }
      exact h.placed.ensured_same_kind hcourse halong hm
  creates d := s.serve_create_eq_ok_iff d
  keeps d := by
    obtain ⟨result, hreply, -⟩ := s.exists_replies (.create d)
    exact hreply.grows
  refuses d hfail hfair := by
    have hsame := s.same_of_serve_create d hfail hfair
    exact ⟨hsame.instances.symm, hsame.dependents.symm⟩

end MemoryStore

open MemoryStore in
/-- Whatever is done to a store that is empty at first, what is stored stands where it belongs, the
creations counted are those that have succeeded, and the calls remembered are those that were made,
each once and in order, from any point on behind which they are not forgotten. -/
theorem store_keeps_order (changes : List Change) :
    (behind {} changes).Tidy ∧
      (behind {} changes).creations = (exchanges {} changes).countP Exchange.creates ∧
      ∀ earlier later, changes = earlier ++ later → .resetCalls ∉ later →
        (behind {} changes).calls = (behind {} earlier).calls ++
          (exchanges (behind {} earlier) later).map fun x => x.call.record := by
  refine ⟨(Reachable.empty.behind changes).tidy, ?_, ?_⟩
  · rw [creations_behind]
    exact Nat.zero_add _
  · rintro earlier later rfl hkeep
    rw [behind_append]
    exact calls_behind (behind {} earlier) hkeep

end InstanceOperator
