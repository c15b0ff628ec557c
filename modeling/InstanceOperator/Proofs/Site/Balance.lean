import InstanceOperator.Proofs.Pass.Interleaving
import InstanceOperator.Proofs.Metrics.Count
import InstanceOperator.Proofs.Site.Basic

/-!
# What the traces of a task count

Over a course of a task the traces count what its calls have done: what it has created, the
differences that it has found, and the failure that it ends with (`Balanced`). Whether a lookup
finds a difference depends on the dependent that is wanted, and what a pass wants depends on the
instance that it has fetched before; so moves are counted together with the moves before them
(`tally`).

* `series_balanced`, `passCourse_balanced`, `ensured_balanced`: the courses of passes and of single
  ensurings.
* `Task.Course.created`, `Task.Course.drifted`, `Task.Course.failed`, `Task.Course.requeued`: the
  same for whole tasks.
-/

namespace InstanceOperator

/-! ## What there is to count -/

namespace Move

/-- A trace enters an event. -/
def enters (event : MetricEvent) : Move → Bool
  | .left (.count e) => e = event
  | _ => false

/-- A dependent of this kind has been created. -/
def createsKind (kind : Kind) (m : Move) : Bool :=
  m.creation?.any fun d => d.kind = kind

/-- A creation has come too late. -/
def conflicts : Move → Bool
  | .asked (.create _) (.error e) => e.isAlreadyExists
  | _ => false

/-- A dependent of this kind has been looked up successfully, and differs from the one wanted. -/
def differs (kind : Kind) (want : Option Dependent) : Move → Bool
  | .asked (.get k _) (.ok live) => k = kind && want.any fun d => detectDrift d live ≠ []
  | _ => false

end Move

namespace PassEnd

def isError : PassEnd → Bool
  | .ok _ => false
  | .error _ => true

/-- The pass has failed to look up or to create a dependent of this kind. -/
def failsAt (kind : Kind) (phase : FailurePhase) : PassEnd → Bool
  | .error (.lookup k _ _) => k = kind && phase = .lookup
  | .error (.create k _ _) => k = kind && phase = .create
  | _ => false

end PassEnd

/-- A pass has ended, and how it ended is as described. -/
def Finish.isPass (p : PassEnd → Bool) : Finish → Bool
  | .pass result => p result
  | .ensure _ => false

namespace Task

def isPass : Task → Bool
  | .pass _ _ => true
  | .ensure _ _ => false

/-- What a task does about differences. -/
def policy : Task → DriftPolicy
  | .pass policy _ => policy
  | .ensure policy _ => policy

/-- The dependent of a kind that a task with these moves wants. A pass wants what the instance that
it has fetched implies. -/
def want? (kind : Kind) (past : List Move) : Task → Option Dependent
  | .pass _ _ => (Job.fetched? past).bind fun i => (desiredState i).toOption.map (·.get kind)
  | .ensure _ want => if want.kind = kind then some want else none

/-- What a pass wants is decided by its first call, which fetches the instance. -/
theorem want?_pass_cons {policy : DriftPolicy} {key : ObjectKey} (kind : Kind) (m : Move)
    (ms ms' : List Move) : (pass policy key).want? kind (m :: ms) =
      (pass policy key).want? kind (m :: ms') := by
  rw [want?, want?, Job.fetched?_cons m ms ms']

/-- A task that has made these moves is to report differences, and this move finds some. -/
def finds (kind : Kind) (task : Task) (past : List Move) (m : Move) : Bool :=
  task.policy = .report && m.differs kind (task.want? kind past)

end Task

/-! ## Courses -/

/-- The traces among some moves count what the calls among them have done, and how they end. -/
structure Balanced (policy : DriftPolicy) (want : Kind → Option Dependent) (ms : List Move)
    (finish : Finish) : Prop where
  created : ∀ kind, ms.countP (Move.enters (.created kind)) = ms.countP (Move.createsKind kind)
  drifted : ∀ kind, ms.countP (Move.enters (.drifted kind)) =
    ms.countP fun m => policy = .report && m.differs kind (want kind)
  failed : ∀ kind phase, ms.countP (Move.enters (.failed kind phase)) =
    (finish.isPass (PassEnd.failsAt kind phase)).toNat

section driftMoves

variable {policy : DriftPolicy} {want live : Dependent}

/-- Reporting differences is no call. -/
theorem countP_driftMoves {p : Move → Bool} (h : ∀ e, p (.left e) = false) :
    (driftMoves policy want live).countP p = 0 := by
  rw [List.countP_eq_zero]
  intro m hm
  rcases mem_driftMoves hm with rfl | rfl
  · simp [h]
  · simp [h]

/-- Reporting differences is counted if there are any, and nothing else is. -/
theorem countP_enters_driftMoves (event : MetricEvent) :
    (driftMoves policy want live).countP (Move.enters event) =
      (decide (event = .drifted want.kind) &&
        (decide (policy = .report) && decide (detectDrift want live ≠ []))).toNat := by
  unfold driftMoves
  by_cases h : policy = .report ∧ detectDrift want live ≠ []
  · rw [if_pos h]
    by_cases he : event = .drifted want.kind
    · simp [Move.enters, h.1, h.2, he]
    · simp [Move.enters, he, Ne.symm he]
  · rw [if_neg h]
    by_cases hp : policy = .report
    · have hsame : detectDrift want live = [] := by
        apply Classical.byContradiction
        intro hne
        exact h ⟨hp, hne⟩
      simp [hsame]
    · simp [hp]

end driftMoves

/-- For each way of ensuring a dependent the traces agree with what was done. -/
theorem ensured_balanced {policy : DriftPolicy} {want : Dependent} {ms : List Move}
    {outcome : Outcome} (h : Ensured policy want ms outcome) :
    Balanced policy (fun kind => (Task.ensure policy want).want? kind []) ms (.ensure outcome) := by
  cases h with
  | found live =>
    -- Only a dependent that is there can differ, so this is the one case with a difference to
    -- count.
    constructor
    · intro kind
      rw [countP_cons_toNat, countP_cons_toNat, countP_enters_driftMoves,
        countP_driftMoves (p := Move.createsKind kind) (fun e => rfl)]
      simp [Move.enters, Move.createsKind, Move.creation?]
    · intro kind
      rw [countP_cons_toNat, countP_cons_toNat, countP_enters_driftMoves,
        countP_driftMoves (p := fun m => policy = .report && m.differs kind _)
          (fun e => Bool.and_false _)]
      by_cases hk : want.kind = kind
      · simp [Move.enters, Move.differs, Task.want?, hk]
      · simp [Move.enters, Move.differs, Task.want?, hk, Ne.symm hk]
    · intro kind phase
      rw [countP_cons_toNat, countP_enters_driftMoves]
      simp [Move.enters, Finish.isPass]
  | unseen e he =>
    constructor
    · intro kind
      simp [Move.enters, Move.createsKind, Move.creation?]
    · intro kind
      simp [Move.enters, Move.differs]
    · intro kind phase
      simp [Move.enters, Finish.isPass]
  | created target =>
    constructor
    · intro kind
      simp [Move.enters, Move.createsKind, Move.creation?, countP_cons_toNat]
    · intro kind
      simp [Move.enters, Move.differs]
    · intro kind phase
      simp [Move.enters, Finish.isPass]
  | outrun target target' =>
    constructor
    · intro kind
      simp [Move.enters, Move.createsKind, Move.creation?]
    · intro kind
      simp [Move.enters, Move.differs]
    · intro kind phase
      simp [Move.enters, Finish.isPass]
  | refused target e he =>
    constructor
    · intro kind
      simp [Move.enters, Move.createsKind, Move.creation?]
    · intro kind
      simp [Move.enters, Move.differs]
    · intro kind phase
      simp [Move.enters, Finish.isPass]

/-- A series of dependents is balanced, by cases of how each of them is ensured. -/
theorem series_balanced {policy : DriftPolicy} {key : ObjectKey} {desired : PerKind Dependent}
    (hkind : ∀ kind, (desired.get kind).kind = kind) {kinds : List Kind} {ms : List Move}
    {result : PassEnd} (hseries : Series policy key (kinds.map desired.get) ms result) :
    Balanced policy (fun kind => some (desired.get kind)) ms (.pass result) := by
  -- Only the last dependent of a series is not found; those before it are counted by induction.
  induction kinds generalizing ms with
  | nil =>
    cases hseries
    constructor <;> intros <;> rfl
  | cons kind rest ih =>
    cases hseries with
    | @found _ _ ms result live tail =>
      obtain ⟨hcreated, hdrifted, hfailed⟩ := ih tail
      constructor
      · intro kind'
        rw [countP_cons_toNat, countP_cons_toNat, List.countP_append, List.countP_append,
          countP_driftMoves (p := Move.createsKind kind') (fun e => rfl), countP_enters_driftMoves,
          hcreated]
        simp [Move.enters, Move.createsKind, Move.creation?]
      · intro kind'
        rw [countP_cons_toNat, countP_cons_toNat, List.countP_append, List.countP_append,
          countP_driftMoves (p := fun m => policy = .report && m.differs kind' _)
            (fun e => Bool.and_false _),
          countP_enters_driftMoves, hdrifted, hkind]
        -- the lookup of this kind counts its difference, that of another one does not
        by_cases hk : kind = kind'
        · rw [hk]
          simp only [Move.enters, Move.differs, Option.any_some, decide_true, Bool.true_and,
            Bool.toNat_false]
          omega
        · simp [Move.enters, Move.differs, hk, Ne.symm hk]
      · intro kind' phase
        rw [countP_cons_toNat, List.countP_append, countP_enters_driftMoves, hfailed]
        simp [Move.enters]
    | unseen e he =>
      constructor
      · intro kind'
        simp [Move.enters, Move.createsKind, Move.creation?]
      · intro kind'
        simp [Move.enters, Move.differs]
      · intro kind' phase
        cases phase <;> simp [Move.enters, Finish.isPass, PassEnd.failsAt, countP_cons_toNat]
    | created target =>
      constructor
      · intro kind'
        simp [Move.enters, Move.createsKind, Move.creation?, countP_cons_toNat]
      · intro kind'
        simp [Move.enters, Move.differs]
      · intro kind' phase
        simp [Move.enters, Finish.isPass, PassEnd.failsAt]
    | outrun target target' =>
      constructor
      · intro kind'
        simp [Move.enters, Move.createsKind, Move.creation?]
      · intro kind'
        simp [Move.enters, Move.differs]
      · intro kind' phase
        simp [Move.enters, Finish.isPass, PassEnd.failsAt]
    | refused target e he =>
      constructor
      · intro kind'
        simp [Move.enters, Move.createsKind, Move.creation?]
      · intro kind'
        simp [Move.enters, Move.differs]
      · intro kind' phase
        cases phase <;> simp [Move.enters, Finish.isPass, PassEnd.failsAt, countP_cons_toNat]

/-- A pass that creates something, or comes too late to, does so once, and asks to be run again. -/
theorem series_requeued {policy : DriftPolicy} {key : ObjectKey} {wants : List Dependent}
    {ms : List Move} {result : PassEnd} (hseries : Series policy key wants ms result) :
    ms.countP (·.creation?.isSome) + ms.countP Move.conflicts =
      (decide (result = .ok .requeue)).toNat := by
  induction hseries with
  | nil => rfl
  | found live tail ih =>
    -- a dependent that is there is neither created nor a conflict
    rw [countP_cons_toNat, countP_cons_toNat, List.countP_append, List.countP_append,
      countP_driftMoves (p := Move.conflicts) (fun e => rfl),
      countP_driftMoves (p := (·.creation?.isSome)) (fun e => rfl), ← ih]
    simp [Move.conflicts, Move.creation?]
  | unseen e he => simp [Move.conflicts, Move.creation?]
  | created target => simp [Move.conflicts, Move.creation?]
  | outrun target target' => simp [Move.conflicts, Move.creation?, StoreError.isAlreadyExists]
  | refused target e he => simp [Move.conflicts, Move.creation?, he]

/-- A pass is to be repeated exactly if it has made one dependent or come too late for one. -/
theorem passCourse_requeued {policy : DriftPolicy} {key : ObjectKey} {ms : List Move}
    {result : PassEnd} (hcourse : PassCourse policy key ms result) :
    ms.countP (·.creation?.isSome) + ms.countP Move.conflicts =
      (decide (result = .ok .requeue)).toNat := by
  cases hcourse with
  | absent target => rfl
  | unfetched e he => simp [Move.conflicts, Move.creation?]
  | terminating i hi => rfl
  | malformed i cause hi hd => simp [Move.conflicts, Move.creation?]
  | served i desired hi hd hs =>
    rw [← series_requeued hs, countP_cons_toNat, countP_cons_toNat]
    rfl

/-- Fetching instances and writing the log count nothing, and there is nothing in them to count. -/
theorem balanced_of_quiet {policy : DriftPolicy} {want : Kind → Option Dependent} {ms : List Move}
    {finish : Finish}
    (hquiet : ∀ m ∈ ms, (∃ key result, m = .asked (.getInstance key) result) ∨
      ∃ notice, m = .left (.log notice))
    (hfinish : ∀ kind phase, finish.isPass (PassEnd.failsAt kind phase) = false) :
    Balanced policy want ms finish := by
  have hzero : ∀ p : Move → Bool, (∀ key result, p (.asked (.getInstance key) result) = false) →
      (∀ notice, p (.left (.log notice)) = false) → ms.countP p = 0 := by
    intro p hfetch hlog
    rw [List.countP_eq_zero]
    intro m hm
    rcases hquiet m hm with ⟨key, result, rfl⟩ | ⟨notice, rfl⟩
    · simp [hfetch]
    · simp [hlog]
  constructor
  · intro kind
    rw [hzero _ (fun _ _ => rfl) (fun _ => rfl), hzero _ (fun _ _ => rfl) (fun _ => rfl)]
  · intro kind
    rw [hzero _ (fun _ _ => rfl) (fun _ => rfl),
      hzero _ (fun _ _ => Bool.and_false _) (fun _ => Bool.and_false _)]
  · intro kind phase
    rw [hzero _ (fun _ _ => rfl) (fun _ => rfl), hfinish]
    rfl

/-- A pass begins by fetching its instance. -/
theorem passCourse_first {policy : DriftPolicy} {key : ObjectKey} {m : Move} {ms : List Move}
    {result : PassEnd} (hcourse : PassCourse policy key (m :: ms) result) :
    ∃ fetched, m = .asked (.getInstance key) fetched := by
  cases hcourse with
  | absent target => exact ⟨_, rfl⟩
  | unfetched e he => exact ⟨_, rfl⟩
  | terminating i hi => exact ⟨_, rfl⟩
  | malformed i cause hi hd => exact ⟨_, rfl⟩
  | served i desired hi hd hs => exact ⟨_, rfl⟩

/-- Every course of a pass is balanced, whatever the instance that it fetched. -/
theorem passCourse_balanced {policy : DriftPolicy} {key : ObjectKey} {ms : List Move}
    {result : PassEnd} (hcourse : PassCourse policy key ms result) :
    Balanced policy (fun kind => (Task.pass policy key).want? kind ms) ms (.pass result) := by
  cases hcourse with
  | absent target => exact balanced_of_quiet (by simp) (fun _ _ => rfl)
  | unfetched e he => exact balanced_of_quiet (by simp) (fun _ _ => rfl)
  | terminating i hi => exact balanced_of_quiet (by simp) (fun _ _ => rfl)
  | malformed i cause hi hd => exact balanced_of_quiet (by simp) (fun _ _ => rfl)
  | @served i desired ms result hi hd hs =>
    -- what the pass wants goes by the instance that its first move has fetched
    have hwant : ∀ kind, (Task.pass policy key).want? kind
        (.asked (.getInstance key) (.ok i) :: ms) = some (desired.get kind) := by
      intro kind
      simp [Task.want?, Job.fetched?, hd, Except.toOption]
    obtain ⟨hcreated, hdrifted, hfailed⟩ := series_balanced (kind_get_of_desiredState hd) hs
    constructor
    · intro kind
      rw [countP_cons_toNat, countP_cons_toNat, hcreated]
      rfl
    · intro kind
      rw [hwant, countP_cons_toNat, countP_cons_toNat, hdrifted]
      simp [Move.enters, Move.differs]
    · intro kind phase
      rw [countP_cons_toNat, hfailed]
      rfl

/-- The traces of a course are entered in the counters of jobs. -/
theorem series_enters {policy : DriftPolicy} {key : ObjectKey} {wants : List Dependent}
    {ms : List Move} {result : PassEnd} (hseries : Series policy key wants ms result)
    {event : MetricEvent} (h : .left (.count event) ∈ ms) : ∃ c : Counter, event = c.event := by
  induction hseries with
  | nil => cases h
  | found live tail ih =>
    -- of the traces of a found dependent only the counted difference is an entry
    rcases mem_found h with h | h | h | h
    · cases h
    · cases h
    · cases h
      exact ⟨.drifted _, rfl⟩
    · exact ih h
  | @unseen want rest e he =>
    have hevent : event = .failed want.kind .lookup := by simpa using h
    exact ⟨.failed want.kind .lookup, hevent⟩
  | @created want rest target =>
    have hevent : event = .created want.kind := by simpa using h
    exact ⟨.created want.kind, hevent⟩
  | outrun target target' => simp at h
  | @refused want rest target e he =>
    have hevent : event = .failed want.kind .create := by simpa using h
    exact ⟨.failed want.kind .create, hevent⟩

/-- A task enters nothing that no counter is for. -/
theorem Task.Course.enters {task : Task} {ms : List Move} {finish : Finish}
    (hcourse : task.Course ms finish) {event : MetricEvent} (h : .left (.count event) ∈ ms) :
    ∃ c : Counter, event = c.event := by
  cases hcourse with
  | pass hpass =>
    cases hpass with
    | absent target => simp at h
    | unfetched e he => simp at h
    | terminating i hi => simp at h
    | malformed i cause hi hd => simp at h
    | served i desired hi hd hs =>
      rcases List.mem_cons.1 h with h | h
      · cases h
      · exact series_enters hs h
  | @ensure policy want ms outcome hensured =>
    cases hensured with
    | found live =>
      rcases List.mem_cons.1 h with h | h
      · cases h
      · rcases mem_driftMoves h with h | h
        · cases h
        · cases h
          exact ⟨.drifted _, rfl⟩
    | created target =>
      have hevent : event = .created want.kind := by simpa using h
      exact ⟨.created want.kind, hevent⟩
    | unseen e he => simp at h
    | outrun target target' => simp at h
    | refused target e he => simp at h

/-! ## The past of a job -/

/-- How many moves of a task are as described, where the description may depend on the moves before.
Some moves have been made before the first of those that are counted. -/
def tally (p : Task → List Move → Move → Bool) (task : Task) (before : List Move) :
    List Move → Nat
  | [] => 0
  | m :: ms => (p task before m).toNat + tally p task (before ++ [m]) ms

section tally

variable {p : Task → List Move → Move → Bool} {task : Task} {before ms : List Move}

/-- Tallies of successive moves add up, if the later ones are taken behind the earlier. -/
theorem tally_append (ms' : List Move) :
    tally p task before (ms ++ ms') =
      tally p task before ms + tally p task (before ++ ms) ms' := by
  induction ms generalizing before with
  | nil => simp [tally]
  | cons m ms ih =>
    simp only [List.cons_append, tally]
    rw [ih, List.append_assoc]
    simp only [List.singleton_append]
    omega

/-- A description that does not depend on the moves made since counts like any other. -/
theorem tally_eq_countP {q : Move → Bool} (h : ∀ more m, p task (before ++ more) m = q m) :
    tally p task before ms = ms.countP q := by
  induction ms generalizing before with
  | nil => rfl
  | cons m ms ih =>
    -- the moves before a move are `before` and those already counted
    have hhere : p task before m = q m := by
      have hnone := h [] m
      rw [List.append_nil] at hnone
      exact hnone
    have hrest : tally p task (before ++ [m]) ms = ms.countP q := by
      apply ih
      intro more m'
      rw [List.append_assoc]
      exact h _ m'
    rw [tally, hhere, hrest, countP_cons_toNat, Nat.add_comm]

end tally

/-- How many moves of a job are as described. -/
def Job.tally (p : Task → List Move → Move → Bool) (job : Job) : Nat :=
  InstanceOperator.tally p job.task [] job.past

theorem Job.tally_advance (p : Task → List Move → Move → Bool) (job : Job) (m : Move)
    (rest : Program Finish) :
    (job.advance m rest).tally p = job.tally p + (p job.task job.past m).toNat := by
  unfold Job.tally advance
  rw [tally_append]
  simp [InstanceOperator.tally]

namespace Task.Course

variable {task : Task} {ms : List Move} {finish : Finish}

/-- Over a whole task, creations are counted as they happen. -/
theorem created (h : task.Course ms finish) (kind : Kind) :
    tally (fun _ _ m => m.enters (.created kind)) task [] ms =
      tally (fun _ _ m => m.createsKind kind) task [] ms := by
  rw [tally_eq_countP (fun _ _ => rfl), tally_eq_countP (fun _ _ => rfl)]
  cases h with
  | pass h => exact (passCourse_balanced h).created kind
  | ensure h => exact (ensured_balanced h).created kind

/-- Over a whole task, differences are counted as they are found. -/
theorem drifted (h : task.Course ms finish) (kind : Kind) :
    tally (fun _ _ m => m.enters (.drifted kind)) task [] ms =
      tally (Task.finds kind) task [] ms := by
  rw [tally_eq_countP (fun _ _ => rfl)]
  cases h with
  | @pass policy key ms result h =>
    rw [(passCourse_balanced h).drifted kind]
    cases ms with
    | nil => rfl
    | cons m ms =>
      -- the first move finds nothing, and behind it what the pass wants is settled
      obtain ⟨fetched, rfl⟩ := passCourse_first h
      have hrest : tally (Task.finds kind) (.pass policy key)
          [.asked (.getInstance key) fetched] ms =
          ms.countP fun m => policy = .report && m.differs kind ((Task.pass policy key).want? kind
            (.asked (.getInstance key) fetched :: ms)) := by
        apply tally_eq_countP
        intro more m
        rw [Task.finds, List.singleton_append, Task.want?_pass_cons _ _ more ms]
        rfl
      rw [tally, List.nil_append, hrest, countP_cons_toNat]
      simp [Task.finds, Move.differs]
  | @ensure policy want ms outcome h =>
    rw [(ensured_balanced h).drifted kind]
    exact (tally_eq_countP (fun _ _ => rfl)).symm

/-- Over a whole task, a failure is counted if it is how a pass ends. -/
theorem failed (h : task.Course ms finish) (kind : Kind) (phase : FailurePhase) :
    tally (fun _ _ m => m.enters (.failed kind phase)) task [] ms =
      (finish.isPass (PassEnd.failsAt kind phase)).toNat := by
  rw [tally_eq_countP (fun _ _ => rfl)]
  cases h with
  | pass h => exact (passCourse_balanced h).failed kind phase
  | ensure h => exact (ensured_balanced h).failed kind phase

/-- A pass that asks to be run again has created something or come too late to. -/
theorem requeued (h : task.Course ms finish) :
    tally (fun task _ m => task.isPass && m.creation?.isSome) task [] ms +
        tally (fun task _ m => task.isPass && m.conflicts) task [] ms =
      (finish.isPass (decide <| · = .ok .requeue)).toNat := by
  cases h with
  | pass h =>
    rw [tally_eq_countP (fun _ _ => rfl), tally_eq_countP (fun _ _ => rfl)]
    exact passCourse_requeued h
  | ensure h =>
    rw [tally_eq_countP (q := fun _ => false) (fun _ _ => rfl),
      tally_eq_countP (q := fun _ => false) (fun _ _ => rfl), List.countP_false]
    rfl

end Task.Course

end InstanceOperator
