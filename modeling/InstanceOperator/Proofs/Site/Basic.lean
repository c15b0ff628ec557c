import InstanceOperator.Dispatch.Handler
import InstanceOperator.Proofs.Pass.Course
import InstanceOperator.Proofs.Store.Replies

/-!
# A store at work

One store in memory and one set of books. Passes are run and single dependents are ensured, any
number of them at the same time; failures are settled; and whoever else has access to the store
changes it, makes its calls fail or calls it. All of this comes in any order, one step at a time,
and the trail of a run keeps what each step did, with the store before and behind it.

What a step can be is said once, by `Moment.Real`: the job that makes a move makes it along a course
of its task, and a call gets a reply of the store. What holds over a whole run is derived from that.

* `Site.Step`, `Site.Runs`: one step and a run.
* `Runs.real`: what is known of every moment of a run.
-/

namespace InstanceOperator

/-! ## Courses that have begun -/

/-- With some moves behind it, this is what is left of a program: whatever it goes on to do is, with
those moves, a course of the program. -/
def Program.Leaves {α : Type} (p : Program α) (past : List Move) (rest : Program α) : Prop :=
  ∀ ms a, rest.Course ms a → p.Course (past ++ ms) a

namespace Program.Leaves

variable {α : Type} {p rest : Program α} {past : List Move}

theorem refl (p : Program α) : p.Leaves [] p := by
  intro ms a h
  exact h

theorem asked {d : Instant} {c : Call} {next : c.Result → Program α}
    (h : p.Leaves past (.ask d c next)) (result : c.Result) :
    p.Leaves (past ++ [.asked c result]) (next result) := by
  intro ms a hcourse
  rw [List.append_assoc]
  exact h (.asked c result :: ms) a ⟨result, ms, rfl, hcourse⟩

theorem left {e : Effect} {next : Program α} (h : p.Leaves past (.emit e next)) :
    p.Leaves (past ++ [.left e]) next := by
  intro ms a hcourse
  rw [List.append_assoc]
  exact h (.left e :: ms) a ⟨ms, rfl, hcourse⟩

/-- A program that is done has made a whole course. -/
theorem course_of_done {a : α} (h : p.Leaves past (.done a)) : p.Course past a := by
  have hcourse := h [] a ⟨rfl, rfl⟩
  rw [List.append_nil] at hcourse
  exact hcourse

/-- Every beginning of a program can be brought to an end. -/
theorem exists_course (h : p.Leaves past rest) : ∃ ms a, p.Course (past ++ ms) a := by
  obtain ⟨ms, a, hrest⟩ := rest.exists_course
  exact ⟨ms, a, h ms a hrest⟩

end Program.Leaves

/-! ## Jobs -/

/-- Something to be done on a store. -/
inductive Task where
  | pass (policy : DriftPolicy) (key : ObjectKey)
  | ensure (policy : DriftPolicy) (want : Dependent)

/-- How a task ends. -/
inductive Finish where
  | pass (result : PassEnd)
  | ensure (outcome : Outcome)

namespace Task

/-- The program of a task that is to be done by a deadline. -/
def program (deadline : Instant) : Task → Program Finish
  | .pass policy key => (InstanceOperator.pass deadline policy key).map .pass
  | .ensure policy want => (InstanceOperator.ensure deadline policy want).map .ensure

/-- What doing a task can look like, and how it then ends. -/
inductive Course : Task → List Move → Finish → Prop where
  | pass {policy : DriftPolicy} {key : ObjectKey} {ms : List Move} {result : PassEnd}
      (h : PassCourse policy key ms result) : Course (.pass policy key) ms (.pass result)
  | ensure {policy : DriftPolicy} {want : Dependent} {ms : List Move} {outcome : Outcome}
      (h : Ensured policy want ms outcome) : Course (.ensure policy want) ms (.ensure outcome)

end Task

theorem Program.course_map {α β : Type} {p : Program α} {f : α → β} {ms : List Move} {b : β}
    (h : (p.map f).Course ms b) : ∃ a, p.Course ms a ∧ b = f a := by
  obtain ⟨first, a, second, rfl, hfirst, rfl, rfl⟩ := course_bind.1 h
  rw [List.append_nil]
  exact ⟨a, hfirst, rfl⟩

/-- What a task can look like goes by the calls of its program, not by their deadline. -/
theorem Task.course_of_program {deadline : Instant} {task : Task} {ms : List Move}
    {finish : Finish} (h : (task.program deadline).Course ms finish) : task.Course ms finish := by
  cases task with
  | pass policy key =>
    obtain ⟨result, hcourse, rfl⟩ := Program.course_map h
    exact .pass (passCourse_of_course hcourse)
  | ensure policy want =>
    obtain ⟨outcome, hcourse, rfl⟩ := Program.course_map h
    exact .ensure (ensured_of_course hcourse)

/-- A task that is being done: the moves made so far, and what is left of its program. -/
structure Job where
  task : Task
  past : List Move := []
  rest : Program Finish

namespace Job

/-- The instance that a pass with these moves has fetched. A pass does this first. -/
def fetched? : List Move → Option Instance
  | .asked (.getInstance _) (.ok i) :: _ => some i
  | _ => none

/-- The first move of a pass settles which instance it has fetched. -/
theorem fetched?_cons (m : Move) (ms ms' : List Move) :
    fetched? (m :: ms) = fetched? (m :: ms') := by
  cases m with
  | left e => rfl
  | asked c result =>
    cases c with
    | getInstance key => cases result <;> rfl
    | get kind key => rfl
    | create d => rfl

/-- A task that is to be done by a deadline, of which nothing has been done. -/
def start (task : Task) (deadline : Instant) : Job :=
  { task, rest := task.program deadline }

/-- The job after a move, with what is then left of its program. -/
def advance (job : Job) (m : Move) (rest : Program Finish) : Job :=
  { job with past := job.past ++ [m], rest }

/-- What is left of the job is what its moves have left of its task. -/
def Sound (job : Job) : Prop :=
  ∃ deadline, (job.task.program deadline).Leaves job.past job.rest

theorem sound_start (task : Task) (deadline : Instant) : (start task deadline).Sound :=
  ⟨deadline, .refl (task.program deadline)⟩

end Job

/-! ## Changes from outside -/

/-- What anyone else may do to a store. -/
inductive Change where
  | addInstance (i : Instance)
  | addDependent (d : Dependent)
  | deleteInstance (key : ObjectKey)
  | failInstance (key : ObjectKey) (f : Failure)
  | failLookup (kind : Kind) (f : Failure)
  | failCreate (kind : Kind) (f : Failure)
  | clearFailures
  | resetCalls
  | call (c : Call)

def Change.apply (s : MemoryStore) : Change → MemoryStore
  | .addInstance i => s.addInstance i
  | .addDependent d => s.addDependent d
  | .deleteInstance key => s.deleteInstance key
  | .failInstance key f => s.failInstance key f
  | .failLookup kind f => s.failLookup kind f
  | .failCreate kind f => s.failCreate kind f
  | .clearFailures => s.clearFailures
  | .resetCalls => s.resetCalls
  | .call c => (s.serve c).2

/-! ## The system -/

/-- A store, the books, and the jobs that are being done. -/
structure Site where
  store : MemoryStore
  books : Books
  jobs : List Job

/-- Nothing is stored, nothing has been counted, and there are no jobs. -/
def Site.blank : Site where
  store := {}
  books := { tracker := { min := Duration.zero, max := Duration.zero } }
  jobs := []

/-- What is done in a step. A job is given as it is before its move. -/
inductive Act where
  | begin (task : Task)
  | move (job : Job) (m : Move)
  | finish (job : Job) (result : Finish) (elapsed : Duration)
  | settle (known : Instance) (cause : OperatorError)
  | change (change : Change)

/-- A step as it is remembered, with the store before and behind it. -/
structure Moment where
  before : MemoryStore
  act : Act
  after : MemoryStore

/-- Count the end of a task. Only passes are counted. -/
def Books.finish (b : Books) (elapsed : Duration) : Finish → Books
  | .pass result => b.endPass result elapsed
  | .ensure _ => b

namespace Site

/-- What can happen next. A call of a job gets any reply that the store can give, which covers
injected failures and calls that are given up; the failure of any instance may be settled. -/
inductive Step : Site → Moment → Site → Prop where
  | begin {s : MemoryStore} {b : Books} {jobs : List Job} (task : Task) (deadline : Instant) :
      Step ⟨s, b, jobs⟩ ⟨s, .begin task, s⟩ ⟨s, b, jobs ++ [.start task deadline]⟩
  | ask {s t : MemoryStore} {b : Books} {before after : List Job} {job : Job} {d : Instant}
      {c : Call} {rest : c.Result → Program Finish} {result : c.Result}
      (hjob : job.rest = .ask d c rest) (hreply : s.Replies c result t) :
      Step ⟨s, b, before ++ job :: after⟩ ⟨s, .move job (.asked c result), t⟩
        ⟨t, b, before ++ job.advance (.asked c result) (rest result) :: after⟩
  | leave {s : MemoryStore} {b : Books} {before after : List Job} {job : Job} {e : Effect}
      {rest : Program Finish} (hjob : job.rest = .emit e rest) :
      Step ⟨s, b, before ++ job :: after⟩ ⟨s, .move job (.left e), s⟩
        ⟨s, b.enter e, before ++ job.advance (.left e) rest :: after⟩
  | finish {s : MemoryStore} {b : Books} {before after : List Job} {job : Job} {result : Finish}
      (hjob : job.rest = .done result) (elapsed : Duration) :
      Step ⟨s, b, before ++ job :: after⟩ ⟨s, .finish job result elapsed, s⟩
        ⟨s, b.finish elapsed result, before ++ after⟩
  | settle {s : MemoryStore} {b : Books} {jobs : List Job} (i : Instance) (cause : OperatorError) :
      Step ⟨s, b, jobs⟩ ⟨s, .settle i cause, s⟩ ⟨s, (b.settleFailure i cause).2, jobs⟩
  | change {s : MemoryStore} {b : Books} {jobs : List Job} (ch : Change) :
      Step ⟨s, b, jobs⟩ ⟨s, .change ch, ch.apply s⟩ ⟨ch.apply s, b, jobs⟩

/-- A run, with its moments, the latest first. -/
inductive Runs (start : Site) : List Moment → Site → Prop where
  | refl : Runs start [] start
  | step {trail : List Moment} {now next : Site} {m : Moment} (earlier : Runs start trail now)
      (last : Step now m next) : Runs start (m :: trail) next

/-- The call of a job is served. -/
theorem Step.serve {s t : MemoryStore} {b : Books} {before after : List Job} {job : Job}
    {d : Instant} {c : Call} {rest : c.Result → Program Finish} {result : c.Result}
    (hjob : job.rest = .ask d c rest) (hserves : s.Serves c result t) :
    Step ⟨s, b, before ++ job :: after⟩ ⟨s, .move job (.asked c result), t⟩
      ⟨t, b, before ++ job.advance (.asked c result) (rest result) :: after⟩ :=
  .ask hjob hserves.replies

/-- A moment remembers the store that it found. -/
theorem Step.before {now next : Site} {m : Moment} (h : Step now m next) :
    m.before = now.store := by
  cases h <;> rfl

theorem Step.after {now next : Site} {m : Moment} (h : Step now m next) :
    m.after = next.store := by
  cases h <;> rfl

/-- A run can be cut in two. -/
theorem Runs.cut {start now : Site} {later earlier : List Moment}
    (h : Runs start (later ++ earlier) now) :
    ∃ middle, Runs start earlier middle ∧ Runs middle later now := by
  induction later generalizing now with
  | nil => exact ⟨now, h, .refl⟩
  | cons m later ih =>
    cases h with
    | step hearlier hlast =>
      obtain ⟨middle, hfirst, hsecond⟩ := ih hearlier
      exact ⟨middle, hfirst, .step hsecond hlast⟩

/-- Around a moment of a run stand the run up to its beginning and the run from its end. -/
theorem Runs.around {start now : Site} {later earlier : List Moment} {m : Moment}
    (h : Runs start (later ++ m :: earlier) now) :
    ∃ prior next, Runs start earlier prior ∧ Step prior m next ∧ Runs next later now := by
  obtain ⟨next, hfirst, hlater⟩ := h.cut
  cases hfirst with
  | step hearlier hlast => exact ⟨_, next, hearlier, hlast, hlater⟩

end Site

/-! ## What is known of every moment -/

/-- What is known of a moment: a move of a job is one of a course of its task, a call got a reply of
the store, a job has ended along a course, and nothing else but a change touches the store. -/
inductive Moment.Real : Moment → Prop where
  | begin (s : MemoryStore) (task : Task) : Real ⟨s, .begin task, s⟩
  | asked {s t : MemoryStore} {job : Job} {c : Call} {result : c.Result}
      (hcourse : ∃ ms finish, job.task.Course (job.past ++ .asked c result :: ms) finish)
      (hreply : s.Replies c result t) : Real ⟨s, .move job (.asked c result), t⟩
  | left (s : MemoryStore) {job : Job} {e : Effect}
      (hcourse : ∃ ms finish, job.task.Course (job.past ++ .left e :: ms) finish) :
      Real ⟨s, .move job (.left e), s⟩
  | finished (s : MemoryStore) {job : Job} {result : Finish} (elapsed : Duration)
      (hcourse : job.task.Course job.past result) : Real ⟨s, .finish job result elapsed, s⟩
  | settled (s : MemoryStore) (i : Instance) (cause : OperatorError) : Real ⟨s, .settle i cause, s⟩
  | changed (s : MemoryStore) (ch : Change) : Real ⟨s, .change ch, ch.apply s⟩

namespace Site

variable {start now next : Site} {trail : List Moment} {m : Moment}

/-- Every job is where its moves have brought it. -/
def Sound (s : Site) : Prop := ∀ job ∈ s.jobs, job.Sound

/-- Where there are no jobs, none has gone astray. -/
theorem sound_of_idle (h : now.jobs = []) : now.Sound := by
  intro job hjob
  rw [h] at hjob
  cases hjob

/-- Every step keeps the jobs sound, and is what is known of a moment. -/
theorem Step.keeps (hsound : now.Sound) (hstep : Step now m next) : m.Real ∧ next.Sound := by
  cases hstep with
  | @begin s b jobs task deadline =>
    refine ⟨.begin s task, ?_⟩
    intro job hjob
    rcases List.mem_append.1 hjob with hjob | hjob
    · exact hsound job hjob
    · obtain rfl := List.mem_singleton.1 hjob
      exact Job.sound_start task deadline
  | @ask s t b before after job d c rest result hjob hreply =>
    -- the job that moves stays where its moves have brought it, and the others do not move
    obtain ⟨deadline, hleaves⟩ := hsound job (by simp)
    rw [hjob] at hleaves
    have hnext : (job.advance (.asked c result) (rest result)).Sound :=
      ⟨deadline, hleaves.asked result⟩
    obtain ⟨ms, finish, hcourse⟩ := (hleaves.asked result).exists_course
    rw [List.append_assoc] at hcourse
    exact ⟨.asked ⟨ms, finish, Task.course_of_program hcourse⟩ hreply,
      forall_replace hsound hnext⟩
  | @leave s b before after job e rest hjob =>
    obtain ⟨deadline, hleaves⟩ := hsound job (by simp)
    rw [hjob] at hleaves
    have hnext : (job.advance (.left e) rest).Sound := ⟨deadline, hleaves.left⟩
    obtain ⟨ms, finish, hcourse⟩ := hleaves.left.exists_course
    rw [List.append_assoc] at hcourse
    exact ⟨.left s ⟨ms, finish, Task.course_of_program hcourse⟩, forall_replace hsound hnext⟩
  | @finish s b before after job result hjob elapsed =>
    obtain ⟨deadline, hleaves⟩ := hsound job (by simp)
    rw [hjob] at hleaves
    exact ⟨.finished s elapsed (Task.course_of_program hleaves.course_of_done),
      forall_remove hsound⟩
  | @settle s b jobs i cause => exact ⟨.settled s i cause, hsound⟩
  | @change s b jobs ch => exact ⟨.changed s ch, hsound⟩

/-- Every job of a run is where its moves have brought it. -/
theorem Runs.sound (hsound : start.Sound) (hrun : Runs start trail now) : now.Sound := by
  induction hrun with
  | refl => exact hsound
  | step earlier last ih => exact (last.keeps ih).2

/-- Every moment of a run is one that can occur. -/
theorem Runs.real (hsound : start.Sound) (hrun : Runs start trail now) : ∀ m ∈ trail, m.Real := by
  induction hrun with
  | refl =>
    intro m hm
    cases hm
  | @step trail now next m earlier last ih =>
    intro m' hm
    rcases List.mem_cons.1 hm with rfl | hm
    · exact (last.keeps (earlier.sound hsound)).1
    · exact ih m' hm

end Site

end InstanceOperator
