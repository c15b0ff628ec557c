import InstanceOperator.Proofs.Site.Balance
import Mathlib.Algebra.BigOperators.Group.List.Basic
import Mathlib.Algebra.GroupWithZero.Nat

/-!
# Metrics are a ledger

Passes are run and single dependents are ensured, at the same time and in any order, while failures
are settled and the store is changed from outside. Whenever no job is under way, the metrics say
exactly what has happened: how many passes ended in which way, how many dependents of which kind
were created, how many passes failed at which kind and in which phase, and how many lookups found a
difference.

What is counted over a run is counted over the pasts of its jobs (`Site.Runs.countP_moves`), and
over the past of a job that has ended the traces count what its calls have done.

* `Site.Runs.agree`, `Site.Runs.agree_end`: from the courses of tasks to runs.
* `Site.Runs.read`, `Site.Runs.passesCounted`: what the metrics have counted behind a run.
* `metrics_are_ledger`: the result, for every run.
-/

namespace InstanceOperator

/-! ## What there is to count -/

namespace Moment

/-- A job makes a move that is as described, given its task and its moves so far. -/
def moves (p : Task → List Move → Move → Bool) (m : Moment) : Bool :=
  match m.act with
  | .move job move => p job.task job.past move
  | _ => false

/-- A pass ends, and how it ends is as described. -/
def returns (p : PassEnd → Bool) (m : Moment) : Bool :=
  match m.act with
  | .finish _ finish _ => finish.isPass p
  | _ => false

/-- How many creations the store counts in this moment. -/
def growth (m : Moment) : Nat := m.after.creations - m.before.creations

end Moment

/-! ## Creations in the store -/

namespace MemoryStore

/-- The store counts what a call has created, and nothing else. -/
theorem Replies.creations {s t : MemoryStore} {c : Call} {result : c.Result}
    (h : s.Replies c result t) :
    t.creations = s.creations + (Move.asked c result).creation?.isSome.toNat := by
  cases c with
  | getInstance key => exact (h.same (by simp)).creations.symm
  | get kind key => exact (h.same (by simp)).creations.symm
  | create d =>
    rcases result with e | ⟨⟩
    · show t.creations = s.creations
      cases he : e.isAlreadyExists with
      | false => exact (h.refused he).creations.symm
      | true =>
        obtain ⟨target, rfl⟩ := StoreError.isAlreadyExists_iff.1 he
        rcases h.outrun with ⟨-, -, hs⟩ | ⟨-, hs⟩
        · exact hs.creations.symm
        · rw [← hs.creations, addIfAbsent]
          split <;> rfl
    · obtain ⟨-, -, hs⟩ := h.created
      exact hs.creations.symm

/-- Serving a call takes no creation back. -/
theorem creations_le_serve (s : MemoryStore) (c : Call) :
    s.creations ≤ (s.serve c).2.creations := by
  cases hserve : s.serve c with
  | mk result t =>
    cases result with
    | some result =>
      have hreply : s.Replies c result t := Serves.replies hserve
      rw [hreply.creations]
      exact Nat.le_add_right _ _
    | none =>
      rw [(replies_of_silence hserve).creations]
      exact Nat.le_add_right _ _

end MemoryStore

/-- No change takes back a creation. -/
theorem Change.creations_le (s : MemoryStore) (ch : Change) :
    s.creations ≤ (ch.apply s).creations := by
  cases ch with
  | call c => exact s.creations_le_serve c
  | deleteInstance key =>
    show s.creations ≤ (s.deleteInstance key).creations
    unfold MemoryStore.deleteInstance
    split <;> exact Nat.le_refl _
  | addInstance i => exact Nat.le_refl _
  | addDependent d => exact Nat.le_refl _
  | failInstance key f => exact Nat.le_refl _
  | failLookup kind f => exact Nat.le_refl _
  | failCreate kind f => exact Nat.le_refl _
  | clearFailures => exact Nat.le_refl _
  | resetCalls => exact Nat.le_refl _

namespace Moment.Real

variable {m : Moment}

/-- No moment takes a creation back. -/
theorem creations_le (h : m.Real) : m.before.creations ≤ m.after.creations := by
  cases h with
  | asked hcourse hreply =>
    show _ ≤ _
    rw [hreply.creations]
    exact Nat.le_add_right _ _
  | changed s ch => exact ch.creations_le s
  | begin s task => exact Nat.le_refl _
  | left s hcourse => exact Nat.le_refl _
  | finished s elapsed hcourse => exact Nat.le_refl _
  | settled s i cause => exact Nat.le_refl _

/-- In a move of a job the store counts what the move creates. -/
theorem growth_of_moves (h : m.Real) (hmoves : m.moves fun _ _ _ => true) :
    m.growth = (m.moves fun _ _ move => move.creation?.isSome).toNat := by
  cases h with
  | asked hcourse hreply =>
    unfold Moment.growth
    rw [hreply.creations, Nat.add_sub_cancel_left]
    rfl
  | left s hcourse => exact Nat.sub_self _
  | begin s task => cases hmoves
  | finished s elapsed hcourse => cases hmoves
  | settled s i cause => cases hmoves
  | changed s ch => cases hmoves

end Moment.Real

/-! ## From courses to runs -/

/-- What is counted over the past of the job that ends in a moment. -/
def Moment.closing (p : Task → List Move → Move → Bool) (m : Moment) : Nat :=
  match m.act with
  | .finish job _ _ => job.tally p
  | _ => 0

/-- A job has ended along a course of its task, or nothing ends in the moment. -/
theorem Moment.Real.ends_or_quiet {m : Moment} (h : m.Real) :
    (∃ job finish elapsed, m.act = .finish job finish elapsed ∧
      job.task.Course job.past finish) ∨
    (∀ p, m.closing p = 0) ∧ ∀ ends, m.returns ends = false := by
  cases h with
  | finished s elapsed hcourse => exact .inl ⟨_, _, elapsed, rfl, hcourse⟩
  | begin s task => exact .inr ⟨fun _ => rfl, fun _ => rfl⟩
  | asked hcourse hreply => exact .inr ⟨fun _ => rfl, fun _ => rfl⟩
  | left s hcourse => exact .inr ⟨fun _ => rfl, fun _ => rfl⟩
  | settled s i cause => exact .inr ⟨fun _ => rfl, fun _ => rfl⟩
  | changed s ch => exact .inr ⟨fun _ => rfl, fun _ => rfl⟩

theorem sum_map_toNat {α : Type} (p : α → Bool) (as : List α) :
    (as.map fun a => (p a).toNat).sum = as.countP p := by
  induction as with
  | nil => rfl
  | cons a as ih => rw [List.map_cons, List.sum_cons, ih, countP_cons_toNat, Nat.add_comm]

/-- A sum can be taken over the elements of two sorts apart. -/
theorem sum_filter_add_sum_filter_not {α : Type} (p : α → Bool) (f : α → Nat) (as : List α) :
    ((as.filter p).map f).sum + ((as.filter fun a => !p a).map f).sum = (as.map f).sum := by
  induction as with
  | nil => rfl
  | cons a as ih =>
    cases hp : p a <;> simp [hp] at ih ⊢ <;> omega

namespace Site

variable {start now : Site} {trail : List Moment}

/-- What is counted over the moves of a run is counted over the pasts of its jobs: of those that
have ended, and of those that are still there. -/
theorem Runs.countP_moves (hrun : Runs start trail now) (p : Task → List Move → Move → Bool) :
    (start.jobs.map (Job.tally p)).sum + trail.countP (Moment.moves p) =
      (trail.map (Moment.closing p)).sum + (now.jobs.map (Job.tally p)).sum := by
  induction hrun with
  | refl => simp
  | @step trail now next m earlier last ih =>
    -- A move adds to the tally of its job as much as it counts itself; the end of a job moves its
    -- whole tally to the other side.
    rw [countP_cons_toNat, List.map_cons, List.sum_cons]
    cases last with
    | begin task deadline =>
      have hstart : (Job.start task deadline).tally p = 0 := rfl
      simp only [List.map_append, List.sum_append, List.map_cons, List.map_nil, List.sum_cons,
        List.sum_nil, hstart] at ih ⊢
      simp only [Moment.moves, Moment.closing, Bool.toNat_false]
      omega
    | ask hjob hreply =>
      simp only [List.map_append, List.sum_append, List.map_cons, List.sum_cons,
        Job.tally_advance] at ih ⊢
      simp only [Moment.moves, Moment.closing]
      omega
    | leave hjob =>
      simp only [List.map_append, List.sum_append, List.map_cons, List.sum_cons,
        Job.tally_advance] at ih ⊢
      simp only [Moment.moves, Moment.closing]
      omega
    | finish hjob elapsed =>
      simp only [List.map_append, List.sum_append, List.map_cons, List.sum_cons] at ih ⊢
      simp only [Moment.moves, Moment.closing, Bool.toNat_false]
      omega
    | settle i cause =>
      simp only [Moment.moves, Moment.closing, Bool.toNat_false, Nat.add_zero, Nat.zero_add]
      exact ih
    | change ch =>
      simp only [Moment.moves, Moment.closing, Bool.toNat_false, Nat.add_zero, Nat.zero_add]
      exact ih

section idle

variable (hidle : start.jobs = []) (hrest : now.jobs = []) (hrun : Runs start trail now)

include hidle hrest hrun

/-- Where no job is under way before or behind a run, all its moves belong to jobs that ended in
it. -/
theorem Runs.countP_moves_of_idle (p : Task → List Move → Move → Bool) :
    trail.countP (Moment.moves p) = (trail.map (Moment.closing p)).sum := by
  have hall := hrun.countP_moves p
  rw [hidle, hrest] at hall
  simpa using hall

/-- What comes to the same over every course comes to the same over a run. -/
theorem Runs.agree {p q : Task → List Move → Move → Bool}
    (h : ∀ {task ms finish}, task.Course ms finish → tally p task [] ms = tally q task [] ms) :
    trail.countP (Moment.moves p) = trail.countP (Moment.moves q) := by
  rw [hrun.countP_moves_of_idle hidle hrest, hrun.countP_moves_of_idle hidle hrest]
  congr 1
  apply List.map_congr_left
  intro m hm
  rcases (hrun.real (sound_of_idle hidle) m hm).ends_or_quiet with
    ⟨job, finish, elapsed, hact, hcourse⟩ | ⟨hnone, -⟩
  · simp only [Moment.closing, hact]
    exact h hcourse
  · rw [hnone, hnone]

/-- What tells over every course how it ends counts over a run the passes that end like that. -/
theorem Runs.agree_end {p : Task → List Move → Move → Bool} {ends : PassEnd → Bool}
    (h : ∀ {task ms finish}, task.Course ms finish →
      tally p task [] ms = (finish.isPass ends).toNat) :
    trail.countP (Moment.moves p) = trail.countP (Moment.returns ends) := by
  rw [hrun.countP_moves_of_idle hidle hrest, ← sum_map_toNat]
  congr 1
  apply List.map_congr_left
  intro m hm
  rcases (hrun.real (sound_of_idle hidle) m hm).ends_or_quiet with
    ⟨job, finish, elapsed, hact, hcourse⟩ | ⟨hnone, hreturns⟩
  · simp only [Moment.closing, Moment.returns, hact]
    exact h hcourse
  · rw [hnone, hreturns, Bool.toNat_false]

/-- The passes of a run that ask to be run again are as many as the creations that passes have made
or come too late to make. -/
theorem Runs.requeued :
    trail.countP (Moment.moves fun task _ m => task.isPass && m.creation?.isSome) +
        trail.countP (Moment.moves fun task _ m => task.isPass && m.conflicts) =
      trail.countP (Moment.returns (decide <| · = .ok .requeue)) := by
  rw [hrun.countP_moves_of_idle hidle hrest, hrun.countP_moves_of_idle hidle hrest,
    ← sum_map_toNat, ← List.sum_map_add]
  congr 1
  apply List.map_congr_left
  intro m hm
  rcases (hrun.real (sound_of_idle hidle) m hm).ends_or_quiet with
    ⟨job, finish, elapsed, hact, hcourse⟩ | ⟨hnone, hreturns⟩
  · simp only [Moment.closing, Moment.returns, hact]
    exact hcourse.requeued
  · rw [hnone, hnone, hreturns, Bool.toNat_false]

end idle

/-- The counters of jobs are as much greater as their events were entered. -/
theorem Runs.read (hrun : Runs start trail now) (c : Counter) :
    now.books.metrics.read c =
      start.books.metrics.read c + trail.countP (Moment.moves fun _ _ m => m.enters c.event) := by
  induction hrun with
  | refl => rfl
  | @step trail now next m earlier last ih =>
    rw [countP_cons_toNat, ← Nat.add_assoc, ← ih]
    cases last with
    | begin task => rfl
    | ask hjob hreply => rfl
    | @leave s b before after job e rest hjob =>
      cases e with
      | log n => rfl
      | count event => exact b.metrics.read_record event c
    | @finish s b before after job result hjob elapsed =>
      -- The end of a pass is entered too, but among the passes, which no counter of jobs reads.
      cases result with
      | pass result =>
        have hrecord := b.metrics.read_record (.passEnded result.name elapsed) c
        cases c <;> exact hrecord
      | ensure outcome => rfl
    | @settle s b jobs i cause =>
      unfold Books.settleFailure
      cases cause.isRetryable with
      | false => rfl
      | true =>
        have hrecord := b.metrics.read_record .requeued c
        cases c <;> exact hrecord
    | change ch => rfl

/-- The passes counted by their result, and the times taken, are those of the passes that ended. -/
structure PassesCounted (start : Metrics) (trail : List Moment) (now : Metrics) : Prop where
  sorted : now.passes.Sorted
  passes : ∀ text, now.passes.get text =
    start.passes.get text + trail.countP (Moment.returns (PassEnd.name · = text))
  durations : now.durations.length =
    start.durations.length + trail.countP (Moment.returns fun _ => true)

/-- A moment in which no pass ends leaves the counts of passes as they are. -/
theorem PassesCounted.skip {m m' m'' : Metrics} {trail : List Moment} {moment : Moment}
    (h : PassesCounted m trail m') (hpasses : m''.passes = m'.passes)
    (hdurations : m''.durations = m'.durations)
    (hnone : ∀ p, moment.returns p = false) : PassesCounted m (moment :: trail) m'' := by
  constructor
  · rw [hpasses]
    exact h.sorted
  · intro text
    rw [hpasses, h.passes, countP_cons_toNat, hnone]
    rfl
  · rw [hdurations, h.durations, countP_cons_toNat, hnone]
    rfl

/-- The passes that are counted are those that ended in the run. -/
theorem Runs.passesCounted (hsound : start.Sound) (hsorted : start.books.metrics.passes.Sorted)
    (hrun : Runs start trail now) :
    PassesCounted start.books.metrics trail now.books.metrics := by
  induction hrun with
  | refl => exact ⟨hsorted, fun _ => rfl, rfl⟩
  | @step trail now next m earlier last ih =>
    have hreal := (last.keeps (earlier.sound hsound)).1
    cases last with
    | begin task => exact ih.skip rfl rfl (fun _ => rfl)
    | ask hjob hreply => exact ih.skip rfl rfl (fun _ => rfl)
    | @leave s b before after job e rest hjob =>
      cases e with
      | log n => exact ih.skip rfl rfl (fun _ => rfl)
      | count event =>
        -- a job never enters the end of a pass itself
        cases hreal with
        | left s hcourse =>
          obtain ⟨ms, finish, hcourse⟩ := hcourse
          obtain ⟨c, rfl⟩ := hcourse.enters (List.mem_append_right _ List.mem_cons_self)
          cases c with
          | created kind => exact ih.skip rfl rfl (fun _ => rfl)
          | drifted kind => exact ih.skip rfl rfl (fun _ => rfl)
          | failed kind phase => cases phase <;> exact ih.skip rfl rfl (fun _ => rfl)
    | @finish s b before after job result hjob elapsed =>
      cases result with
      | ensure outcome => exact ih.skip rfl rfl (fun _ => rfl)
      | pass result =>
        obtain ⟨hsorted', hpasses, hdurations⟩ := ih
        constructor
        · exact hsorted'.count _
        · intro text
          have hcount := Tally.get_count hsorted' result.name text
          have hnow := hpasses text
          rw [countP_cons_toNat, ← Nat.add_assoc, ← hnow]
          exact hcount
        · rw [countP_cons_toNat, ← Nat.add_assoc, ← hdurations]
          exact List.length_append
    | @settle s b jobs i cause =>
      have hsame : (b.settleFailure i cause).2.metrics.passes = b.metrics.passes ∧
          (b.settleFailure i cause).2.metrics.durations = b.metrics.durations := by
        unfold Books.settleFailure
        cases cause.isRetryable <;> exact ⟨rfl, rfl⟩
      exact ih.skip hsame.1 hsame.2 (fun _ => rfl)
    | change ch => exact ih.skip rfl rfl (fun _ => rfl)

/-- Creations are only ever added. -/
theorem Runs.creations (hsound : start.Sound) (hrun : Runs start trail now) :
    now.store.creations = start.store.creations + (trail.map Moment.growth).sum := by
  induction hrun with
  | refl => rfl
  | @step trail now next m earlier last ih =>
    have hle := (last.keeps (earlier.sound hsound)).1.creations_le
    rw [last.before, last.after] at hle
    rw [List.map_cons, List.sum_cons, Moment.growth, last.before, last.after]
    omega

/-- In the moves of jobs the store counts what they create. -/
theorem Runs.growth_of_jobs (hsound : start.Sound) (hrun : Runs start trail now) :
    ((trail.filter (Moment.moves fun _ _ _ => true)).map Moment.growth).sum =
      trail.countP (Moment.moves fun _ _ m => m.creation?.isSome) := by
  have hgrowth : ∀ m ∈ trail.filter (Moment.moves fun _ _ _ => true),
      m.growth = (m.moves fun _ _ move => move.creation?.isSome).toNat := by
    intro m hm
    obtain ⟨hm, hmoves⟩ := List.mem_filter.1 hm
    exact (hrun.real hsound m hm).growth_of_moves hmoves
  rw [List.map_congr_left hgrowth, sum_map_toNat, List.countP_filter]
  congr 1
  funext m
  -- what is created in a move is created in a move
  unfold Moment.moves
  split
  · exact Bool.and_true _
  · rfl

end Site

/-! ## The result -/

theorem PassEnd.name_eq_done (r : PassEnd) : decide (r.name = "done") = decide (r = .ok .done) := by
  rcases r with e | r
  · rfl
  · cases r <;> rfl

theorem PassEnd.name_eq_requeue (r : PassEnd) :
    decide (r.name = "requeue") = decide (r = .ok .requeue) := by
  rcases r with e | r
  · rfl
  · cases r <;> rfl

theorem PassEnd.name_eq_error (r : PassEnd) : decide (r.name = "error") = r.isError := by
  rcases r with e | r
  · rfl
  · cases r <;> rfl

/-- What is created is of one of the three kinds. -/
theorem Move.sum_createsKind (m : Move) :
    (Kind.ordered.map fun kind => (m.createsKind kind).toNat).sum = m.creation?.isSome.toNat := by
  unfold createsKind
  generalize m.creation? = made
  cases made with
  | none => rfl
  | some d => cases hd : d.kind <;> simp [Kind.ordered, hd]

/-- Each creation is one of a dependent of some kind. -/
theorem countP_creates (trail : List Moment) :
    (Kind.ordered.map fun kind =>
      trail.countP (Moment.moves fun _ _ m => m.createsKind kind)).sum =
      trail.countP (Moment.moves fun _ _ m => m.creation?.isSome) := by
  induction trail with
  | nil => rfl
  | cons m trail ih =>
    have hone : (Kind.ordered.map fun kind =>
        (m.moves fun _ _ move => move.createsKind kind).toNat).sum =
        (m.moves fun _ _ move => move.creation?.isSome).toNat := by
      unfold Moment.moves
      split
      · next job move _ => exact move.sum_createsKind
      · rfl
    simp only [countP_cons_toNat, List.sum_map_add, ih, hone]

/-- A pass fails at one kind and in one phase at most. -/
theorem countP_failsAt_le (trail : List Moment) :
    (Kind.ordered.map fun kind => trail.countP (Moment.returns (PassEnd.failsAt kind .lookup)) +
      trail.countP (Moment.returns (PassEnd.failsAt kind .create))).sum ≤
      trail.countP (Moment.returns PassEnd.isError) := by
  induction trail with
  | nil => exact Nat.le_refl _
  | cons m trail ih =>
    -- It is enough to look at one moment: an error names one kind and one phase, or none.
    have hone : (Kind.ordered.map fun kind => (m.returns (PassEnd.failsAt kind .lookup)).toNat +
        (m.returns (PassEnd.failsAt kind .create)).toNat).sum ≤
        (m.returns PassEnd.isError).toNat := by
      unfold Moment.returns
      split
      · next job finish elapsed _ =>
        cases finish with
        | ensure outcome => exact Nat.le_refl _
        | pass result =>
          rcases result with e | r
          · cases e with
            | lookup kind name source => cases kind <;> exact Nat.le_refl _
            | create kind name source => cases kind <;> exact Nat.le_refl _
            | client cause => exact Nat.zero_le _
            | store source => exact Nat.zero_le _
            | malformed cause => exact Nat.zero_le _
            | config fault => exact Nat.zero_le _
            | metrics cause => exact Nat.zero_le _
            | io reason => exact Nat.zero_le _
            | watch reason => exact Nat.zero_le _
          · exact Nat.le_refl _
      · exact Nat.le_refl _
    simp only [countP_cons_toNat, List.sum_map_add] at ih hone ⊢
    omega

/-- How a pass ends has one of three names. -/
theorem countP_returns (trail : List Moment) :
    trail.countP (Moment.returns (decide <| · = .ok .done)) +
        trail.countP (Moment.returns (decide <| · = .ok .requeue)) +
        trail.countP (Moment.returns PassEnd.isError) =
      trail.countP (Moment.returns fun _ => true) := by
  induction trail with
  | nil => rfl
  | cons m trail ih =>
    -- In one moment one pass ends at most, with a result of one name.
    have hone : (m.returns (decide <| · = .ok .done)).toNat +
        (m.returns (decide <| · = .ok .requeue)).toNat + (m.returns PassEnd.isError).toNat =
        (m.returns fun _ => true).toNat := by
      unfold Moment.returns
      split
      · next job finish elapsed _ =>
        cases finish with
        | ensure outcome => rfl
        | pass result =>
          rcases result with e | r
          · rfl
          · cases r <;> rfl
      · rfl
    simp only [countP_cons_toNat]
    omega

/-- **Metrics are a ledger.** In every run between two times at which no job is under way, with
metrics that have counted nothing at the start: passes are counted by how they ended, and as often
as their times are taken; creations are counted by kind, whether a pass or a single ensuring made
them, and in total as the store counts them; the passes that ask to be run again are as many as the
creations and conflicts of passes; failures are counted by the kind and the phase in which passes
failed, which is no more often than passes failed; and lookups that found differences are counted
by kind. -/
theorem metrics_are_ledger {start now : Site} {trail : List Moment} (hidle : start.jobs = [])
    (hrest : now.jobs = []) (hfresh : start.books.metrics = {})
    (hrun : Site.Runs start trail now) :
    let metrics := now.books.metrics
    let byJobs := trail.filter (Moment.moves fun _ _ _ => true)
    let byOthers := trail.filter fun m => !m.moves fun _ _ _ => true
    (metrics.passes.get "done" = trail.countP (Moment.returns (decide <| · = .ok .done)) ∧
      metrics.passes.get "requeue" = trail.countP (Moment.returns (decide <| · = .ok .requeue)) ∧
      metrics.passes.get "error" = trail.countP (Moment.returns PassEnd.isError) ∧
      metrics.passes.get "done" + metrics.passes.get "requeue" + metrics.passes.get "error" =
        metrics.durations.length) ∧
    (∀ kind, metrics.created.get kind =
      trail.countP (Moment.moves fun _ _ m => m.createsKind kind)) ∧
    (metrics.createdTotal = (byJobs.map Moment.growth).sum ∧
      now.store.creations = start.store.creations + metrics.createdTotal +
        (byOthers.map Moment.growth).sum) ∧
    metrics.passes.get "requeue" =
      trail.countP (Moment.moves fun task _ m => task.isPass && m.creation?.isSome) +
        trail.countP (Moment.moves fun task _ m => task.isPass && m.conflicts) ∧
    (∀ kind phase, metrics.failures kind phase =
      trail.countP (Moment.returns (PassEnd.failsAt kind phase))) ∧
    (Kind.ordered.map fun kind =>
      metrics.failures kind .lookup + metrics.failures kind .create).sum ≤
        metrics.passes.get "error" ∧
    ∀ kind, metrics.drifted.get kind = trail.countP (Moment.moves (Task.finds kind)) := by
  intro metrics byJobs byOthers
  have hsound := Site.sound_of_idle hidle
  -- Every counter of jobs begins at zero, so it shows what was entered in the run.
  have hread : ∀ c, metrics.read c = trail.countP (Moment.moves fun _ _ m => m.enters c.event) := by
    intro c
    have hall := hrun.read c
    have hzero : start.books.metrics.read c = 0 := by
      rw [hfresh]
      cases c with
      | created kind => exact PerKind.get_const 0 kind
      | drifted kind => exact PerKind.get_const 0 kind
      | failed kind phase => cases phase <;> exact PerKind.get_const 0 kind
    rw [hzero, Nat.zero_add] at hall
    exact hall
  have hcounted : Site.PassesCounted {} trail metrics := by
    have hpasses := hrun.passesCounted hsound (by rw [hfresh]; exact .nil)
    rw [hfresh] at hpasses
    exact hpasses
  -- The counts by result go by the names of the results, which tell the three apart.
  have hpasses : ∀ text p, (∀ r : PassEnd, decide (r.name = text) = p r) →
      metrics.passes.get text = trail.countP (Moment.returns p) := by
    intro text p h
    have hget := hcounted.passes text
    rw [funext h] at hget
    exact hget.trans (Nat.zero_add _)
  have hdone := hpasses "done" _ PassEnd.name_eq_done
  have hrequeue := hpasses "requeue" _ PassEnd.name_eq_requeue
  have herror := hpasses "error" _ PassEnd.name_eq_error
  have hdurations : metrics.durations.length = trail.countP (Moment.returns fun _ => true) :=
    hcounted.durations.trans (Nat.zero_add _)
  -- What is entered agrees with what is done course by course, and hence over the run.
  have hcreated : ∀ kind, metrics.created.get kind =
      trail.countP (Moment.moves fun _ _ m => m.createsKind kind) := by
    intro kind
    exact (hread (.created kind)).trans
      (hrun.agree hidle hrest fun hcourse => hcourse.created kind)
  have hfailures : ∀ kind phase, metrics.failures kind phase =
      trail.countP (Moment.returns (PassEnd.failsAt kind phase)) := by
    intro kind phase
    exact (hread (.failed kind phase)).trans
      (hrun.agree_end hidle hrest fun hcourse => hcourse.failed kind phase)
  have hdrifted : ∀ kind, metrics.drifted.get kind =
      trail.countP (Moment.moves (Task.finds kind)) := by
    intro kind
    exact (hread (.drifted kind)).trans
      (hrun.agree hidle hrest fun hcourse => hcourse.drifted kind)
  -- The store counts creations of whichever kind.
  have htotal : metrics.createdTotal = (byJobs.map Moment.growth).sum := by
    have hall := countP_creates trail
    rw [← hrun.growth_of_jobs hsound] at hall
    simp only [← hcreated] at hall
    rw [← hall, Metrics.createdTotal]
    simp [Kind.ordered, PerKind.get, Nat.add_assoc]
  refine ⟨⟨hdone, hrequeue, herror, ?_⟩, hcreated, ⟨htotal, ?_⟩, ?_, hfailures, ?_, hdrifted⟩
  · rw [hdone, hrequeue, herror, hdurations]
    exact countP_returns trail
  · rw [htotal, Nat.add_assoc, sum_filter_add_sum_filter_not]
    exact hrun.creations hsound
  · rw [hrequeue]
    exact (hrun.requeued hidle hrest).symm
  · rw [herror]
    simp only [hfailures]
    exact countP_failsAt_le trail

/-- A pass creates a deployment, and a second one fails to look up the service: one creation, one
pass to be run again, and one that has failed. -/
theorem two_passes_counted :
    ∃ now trail, Site.Runs Site.blank trail now ∧
      now.books.metrics.passes.get "requeue" = 1 ∧ now.books.metrics.passes.get "error" = 1 ∧
      trail.countP (Moment.moves fun _ _ m => m.createsKind .deployment) = 1 ∧
      trail.countP (Moment.returns (PassEnd.failsAt .service .lookup)) = 1 ∧
      now.store.creations = 1 := by
  have hrun : ∃ now trail, Site.Runs Site.blank trail now ∧ now.jobs = [] ∧
      now.books.metrics.passes.get "requeue" = 1 ∧ now.books.metrics.passes.get "error" = 1 ∧
      now.books.metrics.created.get .deployment = 1 ∧
      now.books.metrics.failures .service .lookup = 1 ∧ now.store.creations = 1 := by
    have hadd : Site.Runs Site.blank _ _ :=
      .step .refl (.change (.addInstance (Identity.mk "mine" "prod" "u-1").bare))
    -- the first pass creates the deployment
    have hbegin := hadd.step (.begin (.pass .report ⟨"prod", "mine"⟩) Instant.origin)
    have hfetch := hbegin.step (@Site.Step.serve _ _ _ [] [] _ _ _ _ _ rfl rfl)
    have hlookup := hfetch.step (@Site.Step.serve _ _ _ [] [] _ _ _ _ _ rfl rfl)
    have hcreate := hlookup.step (@Site.Step.serve _ _ _ [] [] _ _ _ _ _ rfl rfl)
    have htold := hcreate.step (@Site.Step.leave _ _ [] [] _ _ _ rfl)
    have hcounted := htold.step (@Site.Step.leave _ _ [] [] _ _ _ rfl)
    have htold' := hcounted.step (@Site.Step.leave _ _ [] [] _ _ _ rfl)
    have hended := htold'.step (@Site.Step.finish _ _ [] [] _ _ rfl Duration.zero)
    -- the second one finds it, and no service can be looked up
    have hbroken := hended.step (.change (.failLookup .service .unavailable))
    have hbegin' := hbroken.step (.begin (.pass .report ⟨"prod", "mine"⟩) Instant.origin)
    have hfetch' := hbegin'.step (@Site.Step.serve _ _ _ [] [] _ _ _ _ _ rfl rfl)
    have hfound := hfetch'.step (@Site.Step.serve _ _ _ [] [] _ _ _ _ _ rfl rfl)
    have hunseen := hfound.step (@Site.Step.serve _ _ _ [] [] _ _ _ _ _ rfl rfl)
    have hfailed := hunseen.step (@Site.Step.leave _ _ [] [] _ _ _ rfl)
    have hended' := hfailed.step (@Site.Step.finish _ _ [] [] _ _ rfl Duration.zero)
    exact ⟨_, _, hended', rfl, rfl, rfl, rfl, rfl, rfl⟩
  obtain ⟨now, trail, hrun, hrest, hrequeue, herror, hdeployment, hservice, hcreations⟩ := hrun
  obtain ⟨-, hcreated, -, -, hfailures, -, -⟩ := metrics_are_ledger rfl hrest rfl hrun
  refine ⟨now, trail, hrun, hrequeue, herror, ?_, ?_, hcreations⟩
  · rw [← hcreated, hdeployment]
  · rw [← hfailures, hservice]

end InstanceOperator
