import InstanceOperator.Proofs.Desired.Dependents
import InstanceOperator.Proofs.Pass.Journal

/-!
# What one pass does to the store

A pass asks to be run again exactly if it has changed the stored dependents, and then it has
inserted one: the desired dependent of the first kind, in the order of convergence, whose key was
free. In every other case, failures and exhausted time included, the contents are as before.

* `series_leaves`, `passCourse_leaves`: what a course does to the store along which it runs.
* `pass_inserts_iff_requeue`: the result for a pass, whatever the store holds and however it fails.
-/

namespace InstanceOperator

/-! ## Missing dependents -/

namespace MemoryStore

/-- The key of the desired dependent of a kind is free. -/
def lacks (s : MemoryStore) (desired : PerKind Dependent) (kind : Kind) : Bool :=
  (s.dependents.get? (kind, (desired.get kind).key)).isNone

/-- The kinds whose desired dependent is missing, in the order of convergence. -/
def missing (s : MemoryStore) (desired : PerKind Dependent) : List Kind :=
  Kind.ordered.filter (s.lacks desired)

/-- A kind is missing exactly if the key of its desired dependent is free. -/
theorem mem_missing_iff {s : MemoryStore} {desired : PerKind Dependent} {kind : Kind} :
    kind ∈ s.missing desired ↔ s.dependents.get? (kind, (desired.get kind).key) = none := by
  rw [missing, List.mem_filter, lacks, Option.isNone_iff_eq_none]
  constructor
  · intro h
    exact h.2
  · intro h
    exact ⟨Kind.mem_ordered kind, h⟩

/-- A dependent comes into being in a store: it takes a key that was free, and nothing else of the
contents changes. It counts as a creation unless the store was made to act as if someone else had
come first. -/
structure Gains (s : MemoryStore) (d : Dependent) (t : MemoryStore) : Prop where
  free : s.dependents.get? (d.kind, d.key) = none
  dependents : t.dependents = s.dependents.insert (d.kind, d.key) d
  instances : t.instances = s.instances
  failures : ∀ c, t.failure? c = s.failure? c
  creations :
    (s.createFailures.get d.kind = none ∧ t.creations = s.creations + 1) ∨
      (s.createFailures.get d.kind = some .alreadyExists ∧ t.creations = s.creations)

/-- What a store lacks goes by its contents, not by the calls it remembers. -/
theorem Same.lacks {s t : MemoryStore} (h : s.Same t) (desired : PerKind Dependent) :
    s.lacks desired = t.lacks desired := by
  funext kind
  rw [MemoryStore.lacks, MemoryStore.lacks, h.dependents]

/-- What a store gains, a store with the same contents gains. -/
theorem Gains.of_same {s t u : MemoryStore} {d : Dependent} (h : s.Same t) (hg : t.Gains d u) :
    s.Gains d u := by
  have hfailure := h.failure? (.create d)
  simp only [failure?] at hfailure
  constructor
  · rw [h.dependents]
    exact hg.free
  · rw [h.dependents]
    exact hg.dependents
  · rw [h.instances]
    exact hg.instances
  · intro c
    rw [h.failure? c]
    exact hg.failures c
  · rw [hfailure, h.creations]
    exact hg.creations

/-- A creation that succeeds. -/
theorem Replies.gains_of_ok {s t : MemoryStore} {d : Dependent}
    (h : s.Replies (.create d) (.ok ()) t) : s.Gains d t := by
  obtain ⟨hfailure, hfree, hsame⟩ := h.created
  constructor
  · exact hfree
  · exact hsame.dependents.symm
  · exact hsame.instances.symm
  · intro c
    rw [← hsame.failure? c]
    cases c <;> rfl
  · exact .inl ⟨hfailure, hsame.creations.symm⟩

/-- A creation that comes too late although the key was free: only a store that was made to act so
answers like that, and it stores the object. -/
theorem Replies.gains_of_outrun {s t : MemoryStore} {d : Dependent} {target : String}
    (h : s.Replies (.create d) (.error (.alreadyExists target)) t)
    (hfree : s.dependents.get? (d.kind, d.key) = none) : s.Gains d t := by
  rcases h.outrun with ⟨hheld, -, -⟩ | ⟨hfailure, hsame⟩
  · rw [hfree] at hheld
    cases hheld
  · have hadd : s.addIfAbsent d = s.addDependent d := by
      rw [addIfAbsent, Registry.contains, hfree]
      rfl
    rw [hadd] at hsame
    constructor
    · exact hfree
    · exact hsame.dependents.symm
    · exact hsame.instances.symm
    · intro c
      rw [← hsame.failure? c]
      cases c <;> rfl
    · exact .inr ⟨hfailure, hsame.creations.symm⟩

end MemoryStore

/-! ## What a course does -/

/-- What ensuring dependents in order leaves behind. -/
theorem series_leaves {policy : DriftPolicy} {key : ObjectKey} {desired : PerKind Dependent}
    (hkind : ∀ kind, (desired.get kind).kind = kind) {kinds : List Kind} {ms : List Move}
    {result : PassEnd} (hseries : Series policy key (kinds.map desired.get) ms result)
    {s t : MemoryStore} (halong : Along MemoryStore.Replies s ms t) :
    (result ≠ .ok .requeue ∧ s.Same t) ∨
      (result = .ok .requeue ∧
        ∃ kind, (kinds.filter (s.lacks desired)).head? = some kind ∧
          s.Gains (desired.get kind) t) := by
  induction kinds generalizing ms s with
  | nil =>
    cases hseries
    have ht : t = s := halong
    rw [ht]
    exact .inl ⟨by simp, .refl s⟩
  | cons kind rest ih =>
    -- the key of a kind that is looked up decides whether the kind is among the missing ones
    have hlacks : s.lacks desired kind =
        (s.dependents.get? ((desired.get kind).kind, (desired.get kind).key)).isNone := by
      rw [MemoryStore.lacks, hkind]
    cases hseries with
    | found live tail =>
      obtain ⟨u, hlook, halong⟩ := halong
      have hsame : s.Same u := hlook.same (by simp)
      have hheld : s.lacks desired kind = false := by
        rw [hlacks, hlook.found]
        rfl
      have hrest := ih tail (along_driftMoves.1 halong)
      rw [← hsame.lacks] at hrest
      rw [List.filter_cons_of_neg (by simp [hheld])]
      rcases hrest with ⟨hne, hu⟩ | ⟨heq, k, hk, hg⟩
      · exact .inl ⟨hne, hsame.trans hu⟩
      · exact .inr ⟨heq, k, hk, hg.of_same hsame⟩
    | unseen e he =>
      obtain ⟨u, hlook, rfl⟩ := halong
      exact .inl ⟨by simp, hlook.same (by simp)⟩
    | created target =>
      obtain ⟨u, hlook, v, hmade, rfl⟩ := halong
      have hsame : s.Same u := hlook.same (by simp)
      have hfree : s.lacks desired kind = true := by
        rw [hlacks, hlook.absent]
        rfl
      rw [List.filter_cons_of_pos hfree]
      exact .inr ⟨rfl, kind, rfl, hmade.gains_of_ok.of_same hsame⟩
    | outrun target target' =>
      obtain ⟨u, hlook, v, hmade, rfl⟩ := halong
      have hsame : s.Same u := hlook.same (by simp)
      have hfree : s.lacks desired kind = true := by
        rw [hlacks, hlook.absent]
        rfl
      have hfree' := hlook.absent
      rw [hsame.dependents] at hfree'
      rw [List.filter_cons_of_pos hfree]
      exact .inr ⟨rfl, kind, rfl, (hmade.gains_of_outrun hfree').of_same hsame⟩
    | refused target e he =>
      obtain ⟨u, hlook, v, hmade, rfl⟩ := halong
      have hsame : s.Same u := hlook.same (by simp)
      exact .inl ⟨by simp, hsame.trans (hmade.refused he)⟩

/-- What a pass leaves behind, by how it ends. One that asks to be run again has fetched an
instance that is not on its way out, and the first missing one of its dependents has come into
being; any other has changed nothing but the calls remembered. -/
def PassLeaves (key : ObjectKey) (s : MemoryStore) : PassEnd → MemoryStore → Prop
  | .ok .requeue, t =>
    ∃ i desired kind, s.instances.get? key = some i ∧ i.metadata.deletionTimestamp = none ∧
      desiredState i = .ok desired ∧ (s.missing desired).head? = some kind ∧
      s.Gains (desired.get kind) t
  | .ok .done, t => s.Same t
  | .error _, t => s.Same t

/-- A pass that is not to be repeated has left the store as it was. -/
theorem passLeaves_of_same {key : ObjectKey} {s t : MemoryStore} {result : PassEnd}
    (hne : result ≠ .ok .requeue) (h : s.Same t) : PassLeaves key s result t := by
  match result with
  | .ok .requeue => exact absurd rfl hne
  | .ok .done => exact h
  | .error _ => exact h

/-- Each course of a pass leaves the store as described, whatever the store answered. -/
theorem passCourse_leaves {policy : DriftPolicy} {key : ObjectKey} {ms : List Move}
    {result : PassEnd} (hcourse : PassCourse policy key ms result) {s t : MemoryStore}
    (halong : Along MemoryStore.Replies s ms t) : PassLeaves key s result t := by
  cases hcourse with
  | absent target =>
    obtain ⟨u, hfetch, rfl⟩ := halong
    exact hfetch.same (by simp)
  | unfetched e he =>
    obtain ⟨u, hfetch, rfl⟩ := halong
    exact hfetch.same (by simp)
  | terminating i hi =>
    obtain ⟨u, hfetch, rfl⟩ := halong
    exact hfetch.same (by simp)
  | malformed i cause hi hd =>
    obtain ⟨u, hfetch, rfl⟩ := halong
    exact hfetch.same (by simp)
  | served i desired hi hd hs =>
    obtain ⟨u, hfetch, halong⟩ := halong
    have hsame : s.Same u := hfetch.same (by simp)
    -- fetching changes nothing, so what the series leaves is seen from before the pass
    rcases series_leaves (kind_get_of_desiredState hd) hs halong with ⟨hne, hu⟩ |
      ⟨rfl, kind, hk, hg⟩
    · exact passLeaves_of_same hne (hsame.trans hu)
    · rw [← hsame.lacks] at hk
      exact ⟨i, desired, kind, hfetch.fetched, hi, hd, hk, hg.of_same hsame⟩

/-- What a run of a pass leaves behind. -/
theorem run_pass_leaves (deadline : Instant) (policy : DriftPolicy) (key : ObjectKey)
    (waits : Waits) (r : Run) :
    PassLeaves key r.store ((pass deadline policy key).run waits r).1
      ((pass deadline policy key).run waits r).2.store := by
  exact passCourse_leaves (passCourse_of_course (course_moves waits (pass deadline policy key) r))
    (along_moves waits (pass deadline policy key) r)

/-! ## The result -/

theorem PassLeaves.same_of_ne {key : ObjectKey} {s t : MemoryStore} {result : PassEnd}
    (h : PassLeaves key s result t) (hne : result ≠ .ok .requeue) : s.Same t := by
  match result, h with
  | .ok .requeue, _ => exact absurd rfl hne
  | .ok .done, h => exact h
  | .error _, h => exact h

/-- A pass leaves the instances as they are. -/
theorem PassLeaves.instances {key : ObjectKey} {s t : MemoryStore} {result : PassEnd}
    (h : PassLeaves key s result t) : t.instances = s.instances := by
  by_cases heq : result = .ok .requeue
  · rw [heq] at h
    obtain ⟨_, _, _, _, _, _, _, hg⟩ := h
    exact hg.instances
  · exact (h.same_of_ne heq).instances.symm

/-- A pass has changed the dependents exactly if it asks to be run again. -/
theorem PassLeaves.dependents_differ_iff {key : ObjectKey} {s t : MemoryStore} {result : PassEnd}
    (h : PassLeaves key s result t) :
    (∃ k, t.dependents.get? k ≠ s.dependents.get? k) ↔ result = .ok .requeue := by
  constructor
  · rintro ⟨k, hne⟩
    apply Classical.byContradiction
    intro heq
    rw [(h.same_of_ne heq).dependents] at hne
    exact hne rfl
  · intro heq
    rw [heq] at h
    obtain ⟨_, desired, kind, _, _, _, _, hg⟩ := h
    -- the key that was free before is taken behind
    refine ⟨((desired.get kind).kind, (desired.get kind).key), ?_⟩
    rw [hg.free, hg.dependents, Registry.get?_insert, if_pos rfl]
    simp

/-- **One pass, one insertion at most.** Whatever a store holds, however its calls fail and however
long they take, a pass changes the dependents exactly if it asks to be run again. It has then
inserted the first missing one of the dependents that the stored instance implies, which counts as
a creation unless the store was made to act as if someone else had come first. Any other end of the
pass, a failure included, leaves dependents and the count of creations as they were, and instances
never change. -/
theorem pass_inserts_iff_requeue (policy : DriftPolicy) (key : ObjectKey) (deadline : Instant)
    (waits : Waits) (r : Run) :
    let result := ((pass deadline policy key).run waits r).1
    let s := r.store
    let t := ((pass deadline policy key).run waits r).2.store
    ((∃ k, t.dependents.get? k ≠ s.dependents.get? k) ↔ result = .ok .requeue) ∧
    t.instances = s.instances ∧
    (result ≠ .ok .requeue → t.dependents = s.dependents ∧ t.creations = s.creations) ∧
    (result = .ok .requeue →
      ∃ i desired kind, s.instances.get? key = some i ∧ desiredState i = .ok desired ∧
        (s.missing desired).head? = some kind ∧
        t.dependents = s.dependents.insert (kind, (desired.get kind).key) (desired.get kind) ∧
        ((s.createFailures.get kind = none ∧ t.creations = s.creations + 1) ∨
          (s.createFailures.get kind = some .alreadyExists ∧ t.creations = s.creations))) := by
  intro result s t
  have hleaves : PassLeaves key s result t := run_pass_leaves deadline policy key waits r
  refine ⟨hleaves.dependents_differ_iff, hleaves.instances, ?_, ?_⟩
  · intro hne
    have hsame := hleaves.same_of_ne hne
    exact ⟨hsame.dependents.symm, hsame.creations.symm⟩
  · intro heq
    rw [heq] at hleaves
    obtain ⟨i, desired, kind, hi, -, hd, hk, hg⟩ := hleaves
    -- what was gained is filed under its own kind, which is the missing one
    have hkind : (desired.get kind).kind = kind := kind_get_of_desiredState hd kind
    have hdependents := hg.dependents
    have hcreations := hg.creations
    rw [hkind] at hdependents hcreations
    exact ⟨i, desired, kind, hi, hd, hk, hdependents, hcreations⟩

end InstanceOperator
