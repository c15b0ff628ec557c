import InstanceOperator.Dispatch.Handler
import InstanceOperator.Proofs.Desired.Dependents
import InstanceOperator.Proofs.Pass.Course
import InstanceOperator.Proofs.Retry.Tracker
import Mathlib.Logic.Relation

/-!
# How failures are put off

Instances are handled in any order and at the same time: for each a pass is run, whose calls may
come to anything, and its end is settled. The history lists what was settled and how, the latest
first, and the delay that follows a failure is read off it: the more failures in a row an instance
has, permanent ones apart, the further along its delays it is.

The tracker of failures is held to the history by `Handlers.Kept`: for every key it stands as many
delays behind the start as the key has failures since its last success. Failures are tracked by the
written form of a key, so this needs namespaces without slashes.

* `streak`: the failures of an instance since its last success.
* `Handlers.Step`: what can happen next.
* `handlers_put_off`: the result, for every run.
-/

namespace InstanceOperator

/-! ## Permanent failures -/

/-- A failure that would only repeat itself. -/
inductive OperatorError.Permanent : OperatorError → Prop where
  | malformed (cause : Malformed) : Permanent (.malformed cause)
  | config (fault : ConfigFault) : Permanent (.config fault)
  | store (reason : String) : Permanent (.store (.invalid reason))
  | lookup (kind : Kind) (name : String) (reason : String) :
      Permanent (.lookup kind name (.invalid reason))
  | create (kind : Kind) (name : String) (reason : String) :
      Permanent (.create kind name (.invalid reason))

/-- Only what is invalid would be refused again. -/
theorem StoreError.isTransient_eq_false_iff {e : StoreError} :
    e.isTransient = false ↔ ∃ reason, e = .invalid reason := by
  cases e <;> simp [isTransient]

/-- The errors that are not worth another attempt are exactly the permanent ones. -/
theorem OperatorError.permanent_iff {e : OperatorError} : e.Permanent ↔ e.isRetryable = false := by
  constructor
  · intro h
    cases h <;> rfl
  · intro h
    cases e with
    | malformed cause => exact .malformed cause
    | config fault => exact .config fault
    | store source =>
      -- of the errors of the store only a refusal of the object is for good
      obtain ⟨reason, rfl⟩ := StoreError.isTransient_eq_false_iff.1 h
      exact .store reason
    | lookup kind name source =>
      obtain ⟨reason, rfl⟩ := StoreError.isTransient_eq_false_iff.1 h
      exact .lookup kind name reason
    | create kind name source =>
      obtain ⟨reason, rfl⟩ := StoreError.isTransient_eq_false_iff.1 h
      exact .create kind name reason
    | client cause => cases h
    | metrics cause => cases h
    | io reason => cases h
    | watch reason => cases h

theorem OperatorError.isRetryable_of_not_permanent {e : OperatorError} (h : ¬ e.Permanent) :
    e.isRetryable = true := by
  rw [permanent_iff] at h
  simpa using h

/-! ## What has been settled -/

/-- What became of one handling of an instance: the instance as it was known, the moves of its pass,
how it ended, and the action that followed. -/
structure Settlement where
  known : Instance
  past : List Move
  result : PassEnd
  action : Action

namespace Settlement

/-- The instance of a key has been dealt with successfully. -/
def succeeds (key : ObjectKey) (e : Settlement) : Bool :=
  e.known.key? = some key && e.result.toBool

/-- The instance of a key has failed, but not for good. -/
def fails (key : ObjectKey) (e : Settlement) : Bool :=
  e.known.key? = some key &&
    match e.result with
    | .ok _ => false
    | .error cause => cause.isRetryable

/-- A failure was answered with a delay. -/
def putOff (e : Settlement) : Bool :=
  match e.result, e.action with
  | .error _, .requeue _ => true
  | _, _ => false

end Settlement

/-- The failures of the instance of a key since its last success, permanent ones apart. The latest
settlement stands first. -/
def streak (key : ObjectKey) (history : List Settlement) : Nat :=
  (history.takeWhile fun e => !e.succeeds key).countP (Settlement.fails key)

section streak

variable {key : ObjectKey} {e : Settlement}

/-- A success ends the streak. -/
theorem streak_cons_of_succeeds (h : e.succeeds key = true) (history : List Settlement) :
    streak key (e :: history) = 0 := by
  simp [streak, h]

/-- A failure prolongs the streak. -/
theorem streak_cons_of_fails (h : e.fails key = true) (history : List Settlement) :
    streak key (e :: history) = streak key history + 1 := by
  have hnot : e.succeeds key = false := by
    unfold Settlement.fails at h
    unfold Settlement.succeeds
    cases hresult : e.result with
    | ok result => simp [hresult] at h
    | error cause => simp [Except.toBool]
  simp [streak, hnot, h]

/-- Anything else leaves the streak as it is. -/
theorem streak_cons_of_neither (h : e.succeeds key = false) (h' : e.fails key = false)
    (history : List Settlement) : streak key (e :: history) = streak key history := by
  simp [streak, h, h']

/-- Neither what is settled for another instance nor a permanent failure touches the streak. -/
theorem streak_cons_of_apart
    (h : e.known.key? ≠ some key ∨ ∃ cause, e.result = .error cause ∧ cause.Permanent)
    (history : List Settlement) : streak key (e :: history) = streak key history := by
  rcases h with hother | ⟨cause, hresult, hpermanent⟩
  · apply streak_cons_of_neither
    · simp [Settlement.succeeds, hother]
    · simp [Settlement.fails, hother]
  · have hretry : cause.isRetryable = false := OperatorError.permanent_iff.1 hpermanent
    apply streak_cons_of_neither
    · simp [Settlement.succeeds, hresult, Except.toBool]
    · simp [Settlement.fails, hresult, hretry]

end streak

/-! ## Successful passes -/

/-- The move has created a dependent, or found that someone else has created it. -/
def Move.Makes : Move → Prop
  | .asked (.create _) (.ok _) => True
  | .asked (.create _) (.error e) => e.isAlreadyExists = true
  | _ => False

/-- Of the ends without a failure, the one that asks for another pass is the one behind a creation
or a conflict. -/
theorem series_makes_iff {policy : DriftPolicy} {key : ObjectKey} {wants : List Dependent}
    {ms : List Move} {result : PassEnd} (hseries : Series policy key wants ms result)
    {r : PassResult} (hr : result = .ok r) : (∃ m ∈ ms, m.Makes) ↔ r = .requeue := by
  induction hseries with
  | nil =>
    cases hr
    simp
  | @found want rest ms result live tail ih =>
    -- neither the lookup nor the report of differences makes anything
    rw [← ih hr]
    constructor
    · rintro ⟨m, hm, hmakes⟩
      rcases mem_found hm with rfl | rfl | rfl | hm
      · cases hmakes
      · cases hmakes
      · cases hmakes
      · exact ⟨m, hm, hmakes⟩
    · rintro ⟨m, hm, hmakes⟩
      exact ⟨m, List.mem_cons_of_mem _ (List.mem_append_right _ hm), hmakes⟩
  | unseen e he => cases hr
  | created target =>
    cases hr
    simp [Move.Makes]
  | outrun target target' =>
    cases hr
    simp [Move.Makes, StoreError.isAlreadyExists]
  | refused target e he => cases hr

/-- Whether a pass is repeated at once is decided by whether it has made or met a new dependent. -/
theorem passCourse_makes_iff {policy : DriftPolicy} {key : ObjectKey} {ms : List Move}
    {r : PassResult} (hcourse : PassCourse policy key ms (.ok r)) :
    (∃ m ∈ ms, m.Makes) ↔ r = .requeue := by
  cases hcourse with
  | absent target => simp [Move.Makes]
  | terminating i hi => simp [Move.Makes]
  | served i desired hi hd hs =>
    rw [← series_makes_iff hs rfl]
    constructor
    · rintro ⟨m, hm, hmakes⟩
      rcases List.mem_cons.1 hm with rfl | hm
      · cases hmakes
      · exact ⟨m, hm, hmakes⟩
    · rintro ⟨m, hm, hmakes⟩
      exact ⟨m, List.mem_cons_of_mem _ hm, hmakes⟩

/-! ## The traces of a pass -/

/-- Ensuring dependents in order never counts that a pass is put off. -/
theorem series_left {policy : DriftPolicy} {key : ObjectKey} {wants : List Dependent}
    {ms : List Move} {result : PassEnd} (hseries : Series policy key wants ms result) :
    .left (.count .requeued) ∉ ms := by
  induction hseries with
  | nil => simp
  | @found want rest ms result live tail ih =>
    intro hm
    rcases mem_found hm with hm | hm | hm | hm
    · cases hm
    · cases hm
    · cases hm
    · exact ih hm
  | unseen e he => simp
  | created target => simp
  | outrun target target' => simp
  | refused target e he => simp

/-- That a failed pass is put off is counted by its handler, never by the pass itself. -/
theorem passCourse_left {policy : DriftPolicy} {key : ObjectKey} {ms : List Move}
    {result : PassEnd} (hcourse : PassCourse policy key ms result) :
    .left (.count .requeued) ∉ ms := by
  cases hcourse with
  | absent target => simp
  | unfetched e he => simp
  | terminating i hi => simp
  | malformed i cause hi hd => simp
  | served i desired hi hd hs =>
    intro hm
    rcases List.mem_cons.1 hm with hm | hm
    · cases hm
    · exact series_left hs hm

/-- A pass never counts that it is put off: that is for the one who settles its end. -/
theorem Underway.Sound.ne_requeued {p : Underway} (hp : p.Sound) {e : Effect}
    {rest : Program PassEnd} (h : p.rest = .emit e rest) : e ≠ .count .requeued := by
  rintro rfl
  obtain ⟨ms, result, -, hcourse⟩ := (hp.left h).exists_passCourse
  refine passCourse_left hcourse ?_
  simp [Underway.advance]

/-! ## The system -/

/-- An instance that is being handled. -/
inductive Handling where
  /-- A pass of the instance is under way. -/
  | passing (known : Instance) (p : Underway)
  /-- The pass has ended, and its end is yet to be settled. -/
  | ended (known : Instance) (key : ObjectKey) (past : List Move) (result : PassEnd)
  /-- No pass can be run for the instance, and this is yet to be settled. -/
  | rejected (known : Instance) (cause : OperatorError)

/-- Begin to handle an instance, with the deadline that a pass then has. -/
def Handling.begin (deadline : Instant) (policy : DriftPolicy) (i : Instance) : Handling :=
  match i.passKey with
  | .ok key => .passing i (.start deadline policy key)
  | .error cause => .rejected i cause

/-- The instances that are being handled, what is kept across passes, and what has been settled, the
latest first. -/
structure Handlers where
  books : Books
  atWork : List Handling
  history : List Settlement

namespace Handlers

/-- What can happen next, where the instances handled are of a given set. -/
inductive Step (among : Instance → Prop) (policy : DriftPolicy) : Handlers → Handlers → Prop where
  | receive {b : Books} {atWork : List Handling} {history : List Settlement} {i : Instance}
      (hi : among i) (deadline : Instant) :
      Step among policy ⟨b, atWork, history⟩ ⟨b, atWork ++ [.begin deadline policy i], history⟩
  /-- A call of a pass comes to something, whatever it is. -/
  | call {b : Books} {before after : List Handling} {history : List Settlement} {i : Instance}
      {p : Underway} {d : Instant} {c : Call} {rest : c.Result → Program PassEnd}
      (hp : p.rest = .ask d c rest) (result : c.Result) :
      Step among policy ⟨b, before ++ .passing i p :: after, history⟩
        ⟨b, before ++ .passing i (p.advance (.asked c result) (rest result)) :: after, history⟩
  | leave {b : Books} {before after : List Handling} {history : List Settlement} {i : Instance}
      {p : Underway} {e : Effect} {rest : Program PassEnd} (hp : p.rest = .emit e rest) :
      Step among policy ⟨b, before ++ .passing i p :: after, history⟩
        ⟨b.enter e, before ++ .passing i (p.advance (.left e) rest) :: after, history⟩
  | finish {b : Books} {before after : List Handling} {history : List Settlement} {i : Instance}
      {p : Underway} {result : PassEnd} (hp : p.rest = .done result) (elapsed : Duration) :
      Step among policy ⟨b, before ++ .passing i p :: after, history⟩
        ⟨b.endPass result elapsed, before ++ .ended i p.key p.past result :: after, history⟩
  /-- The end of a pass is settled. -/
  | settle {b : Books} {before after : List Handling} {history : List Settlement} {i : Instance}
      {key : ObjectKey} {past : List Move} {result : PassEnd} :
      Step among policy ⟨b, before ++ .ended i key past result :: after, history⟩
        ⟨(b.settlePass i key result).2, before ++ after,
          ⟨i, past, result, (b.settlePass i key result).1⟩ :: history⟩
  /-- That no pass can be run is settled as a failure. -/
  | dismiss {b : Books} {before after : List Handling} {history : List Settlement} {i : Instance}
      {cause : OperatorError} :
      Step among policy ⟨b, before ++ .rejected i cause :: after, history⟩
        ⟨(b.settleFailure i cause).2, before ++ after,
          ⟨i, [], .error cause, (b.settleFailure i cause).1⟩ :: history⟩
  /-- A failure that no pass has ended with is settled. Whoever is asked what follows a failure has
  an answer for each, also for those that no pass comes to, such as one of the configuration. -/
  | complain {b : Books} {atWork : List Handling} {history : List Settlement} {i : Instance}
      {key : ObjectKey} (hi : among i) (hkey : i.key? = some key) (cause : OperatorError) :
      Step among policy ⟨b, atWork, history⟩
        ⟨(b.settleFailure i cause).2, atWork,
          ⟨i, [], .error cause, (b.settleFailure i cause).1⟩ :: history⟩

end Handlers

/-! ## The books and the history -/

/-- How a settlement answers, given what was settled before: a success by whether its pass has
created something or found a conflict, a failure by whether it is permanent, and by the place of
the instance in its delays if it is not. -/
structure Settlement.Answered (min max : Duration) (earlier : List Settlement) (e : Settlement) :
    Prop where
  succeeded : ∀ r, e.result = .ok r →
    ((∃ m ∈ e.past, m.Makes) → e.action = .requeue Duration.zero) ∧
    ((¬ ∃ m ∈ e.past, m.Makes) → e.action = .awaitChange)
  failed : ∀ cause, e.result = .error cause → (e.action = .awaitChange ↔ cause.Permanent)
  delayed : ∀ cause, e.result = .error cause → ¬ cause.Permanent →
    ∃ key d, e.known.key? = some key ∧ e.action = .requeue d ∧
      ((Backoff.start min max).delays (streak key earlier + 1))[streak key earlier]? = some d

/-- The books accord with the history: for every key the tracker stands as many delays behind the
start as the key has failures since its last success, everything was answered as it should be, and
the delays that were given are counted. -/
structure Accord (min max : Duration) (counted : Nat) (b : Books) (history : List Settlement) :
    Prop where
  start : b.tracker.fresh.backoff = Backoff.start min max
  backoff : ∀ key : ObjectKey, key.Slashless →
    (b.tracker.state key.text).backoff = (Backoff.start min max).skip (streak key history)
  answered : ∀ later e earlier, history = later ++ e :: earlier →
    Settlement.Answered min max earlier e
  requeues : b.metrics.requeues = counted + history.countP Settlement.putOff

section settlePass

variable {b : Books} {i : Instance} {key : ObjectKey} {cause : OperatorError}

/-- An instance that belongs to a namespace fails under the text of its key. -/
theorem Instance.failureKey_of_key? (h : i.key? = some key) : i.failureKey = key.text := by
  rw [failureKey, h]

/-- A permanent failure waits for a change. -/
theorem Books.settleFailure_of_permanent (h : cause.Permanent) :
    b.settleFailure i cause = (.awaitChange, b.write (.gaveUp i.failureKey cause)) := by
  have hretry : cause.isRetryable = false := OperatorError.permanent_iff.1 h
  simp [settleFailure, hretry]

/-- Any other failure is put off. -/
theorem Books.settleFailure_of_not_permanent (h : ¬ cause.Permanent) (hkey : i.key? = some key) :
    (b.settleFailure i cause).1 = .requeue (b.tracker.nextDelay key.text) ∧
      (b.settleFailure i cause).2.tracker = b.tracker.fail key.text ∧
      (b.settleFailure i cause).2.metrics.requeues = b.metrics.requeues + 1 := by
  have hretry : cause.isRetryable = true := OperatorError.isRetryable_of_not_permanent h
  rw [settleFailure, if_pos hretry, Instance.failureKey_of_key? hkey]
  exact ⟨rfl, rfl, rfl⟩

/-- The traces of a pass touch neither the tracker nor the count of delays. -/
theorem Books.enter_of_ne_requeued {b : Books} {e : Effect} (he : e ≠ .count .requeued) :
    (b.enter e).tracker = b.tracker ∧ (b.enter e).metrics.requeues = b.metrics.requeues := by
  cases e with
  | log n => exact ⟨rfl, rfl⟩
  | count event =>
    cases event with
    | requeued => exact absurd rfl he
    | failed k phase => cases phase <;> exact ⟨rfl, rfl⟩
    | passEnded result elapsed => exact ⟨rfl, rfl⟩
    | created k => exact ⟨rfl, rfl⟩
    | drifted k => exact ⟨rfl, rfl⟩
    | ready => exact ⟨rfl, rfl⟩

end settlePass

namespace Accord

variable {min max : Duration} {counted : Nat} {b b' : Books} {history : List Settlement}
  {e : Settlement} {key : ObjectKey}

/-- Before anything is settled the books are in accord with that, if the tracker holds nothing. -/
theorem of_fresh (hfresh : b.tracker.failing = Registry.empty) :
    Accord b.tracker.min b.tracker.max b.metrics.requeues b [] := by
  constructor
  · rfl
  · intro key _
    rw [Tracker.state_of_failing_empty hfresh]
    rfl
  · intro later e earlier heq
    simp at heq
  · rfl

/-- The delay that comes next for a key is the one at its place in the delays. -/
theorem nextDelay (h : Accord min max counted b history) (hkey : key.Slashless) :
    ((Backoff.start min max).delays (streak key history + 1))[streak key history]? =
      some (b.tracker.nextDelay key.text) := by
  rw [Backoff.getElem?_delays _ (Nat.lt_succ_self _), Tracker.nextDelay, h.backoff key hkey]

/-- What touches neither the tracker nor the count of delays keeps the accord. -/
theorem of_eq (h : Accord min max counted b history) (htracker : b'.tracker = b.tracker)
    (hrequeues : b'.metrics.requeues = b.metrics.requeues) :
    Accord min max counted b' history := by
  constructor
  · rw [htracker]
    exact h.start
  · rw [htracker]
    exact h.backoff
  · exact h.answered
  · rw [hrequeues]
    exact h.requeues

/-- What was answered before goes on to have been, so only the latest settlement is to be looked
at. -/
theorem answered_cons (h : Accord min max counted b history)
    (hnew : e.Answered min max history) (later : List Settlement) (e' : Settlement)
    (earlier : List Settlement) (heq : e :: history = later ++ e' :: earlier) :
    e'.Answered min max earlier := by
  cases later with
  | nil =>
    cases heq
    exact hnew
  | cons e'' later =>
    obtain ⟨-, htail⟩ := List.cons.inj heq
    exact h.answered later e' earlier htail

/-- A success is settled. -/
theorem succeed (h : Accord min max counted b history) {i : Instance} {policy : DriftPolicy}
    {past : List Move} {r : PassResult} (hkey : i.key? = some key) (hslash : key.Slashless)
    (hcourse : PassCourse policy key past (.ok r)) :
    Accord min max counted (b.settlePass i key (.ok r)).2
      (⟨i, past, .ok r, (b.settlePass i key (.ok r)).1⟩ :: history) := by
  constructor
  · exact h.start
  · intro key' hslash'
    show ((b.tracker.reset key.text).state key'.text).backoff = _
    rw [Tracker.state_reset]
    by_cases heq : key = key'
    · -- the instance's own streak ends
      rw [if_pos (congrArg ObjectKey.text heq), h.start, streak_cons_of_succeeds]
      · rfl
      · simp [Settlement.succeeds, hkey, heq, Except.toBool]
    · -- keys that differ are tracked apart
      have hne : key.text ≠ key'.text := fun htext => heq (hslash.text_inj hslash' htext)
      rw [if_neg hne, streak_cons_of_apart]
      · exact h.backoff key' hslash'
      · left
        rw [hkey]
        simpa using heq
  · refine h.answered_cons ?_
    constructor
    · intro r' hr
      cases hr
      have hmakes := passCourse_makes_iff hcourse
      constructor
      · intro hsome
        rw [hmakes.1 hsome]
        rfl
      · intro hnone
        cases r with
        | done => rfl
        | requeue => exact absurd (hmakes.2 rfl) hnone
    · intro cause hr
      cases hr
    · intro cause hr
      cases hr
  · rw [List.countP_cons_of_neg (by simp [Settlement.putOff])]
    exact h.requeues

/-- A permanent failure is settled. -/
theorem giveUp (h : Accord min max counted b history) {i : Instance} {past : List Move}
    {cause : OperatorError} (hpermanent : cause.Permanent) :
    Accord min max counted (b.settleFailure i cause).2
      (⟨i, past, .error cause, (b.settleFailure i cause).1⟩ :: history) := by
  rw [Books.settleFailure_of_permanent hpermanent]
  constructor
  · exact h.start
  · intro key' hslash'
    -- neither the tracker nor a streak takes note of a permanent failure
    rw [streak_cons_of_apart (.inr ⟨cause, rfl, hpermanent⟩)]
    exact h.backoff key' hslash'
  · refine h.answered_cons ?_
    constructor
    · intro r hr
      cases hr
    · intro cause' hr
      cases hr
      exact ⟨fun _ => hpermanent, fun _ => rfl⟩
    · intro cause' hr hnot
      cases hr
      exact absurd hpermanent hnot
  · rw [List.countP_cons_of_neg (by simp [Settlement.putOff])]
    exact h.requeues

/-- A failure that is not permanent is settled. -/
theorem putOff (h : Accord min max counted b history) {i : Instance} {past : List Move}
    {cause : OperatorError} (hkey : i.key? = some key) (hslash : key.Slashless)
    (hnot : ¬ cause.Permanent) :
    Accord min max counted (b.settleFailure i cause).2
      (⟨i, past, .error cause, (b.settleFailure i cause).1⟩ :: history) := by
  obtain ⟨haction, htracker, hrequeues⟩ :=
    Books.settleFailure_of_not_permanent (b := b) hnot hkey
  have hretry : cause.isRetryable = true := OperatorError.isRetryable_of_not_permanent hnot
  rw [haction]
  constructor
  · rw [htracker]
    exact h.start
  · intro key' hslash'
    rw [htracker, Tracker.state_fail]
    by_cases heq : key = key'
    · -- the instance's own streak grows by one, and so does its place in the delays
      rw [if_pos (congrArg ObjectKey.text heq), streak_cons_of_fails, h.backoff key hslash, heq]
      · rfl
      · simp [Settlement.fails, hkey, heq, hretry]
    · -- keys that differ are tracked apart
      have hne : key.text ≠ key'.text := fun htext => heq (hslash.text_inj hslash' htext)
      rw [if_neg hne, streak_cons_of_apart]
      · exact h.backoff key' hslash'
      · left
        rw [hkey]
        simpa using heq
  · refine h.answered_cons ?_
    constructor
    · intro r hr
      cases hr
    · intro cause' hr
      cases hr
      constructor
      · intro hawait
        cases hawait
      · intro hpermanent
        exact absurd hpermanent hnot
    · intro cause' hr _
      exact ⟨key, _, hkey, rfl, h.nextDelay hslash⟩
  · rw [hrequeues, h.requeues, List.countP_cons_of_pos (by simp [Settlement.putOff]),
      Nat.add_assoc]

/-- Whatever the failure of an instance with a key is, settling it keeps the accord. -/
theorem fail (h : Accord min max counted b history) {i : Instance} (past : List Move)
    (cause : OperatorError) (hkey : i.key? = some key) (hslash : key.Slashless) :
    Accord min max counted (b.settleFailure i cause).2
      (⟨i, past, .error cause, (b.settleFailure i cause).1⟩ :: history) := by
  by_cases hpermanent : cause.Permanent
  · exact h.giveUp hpermanent
  · exact h.putOff hkey hslash hpermanent

end Accord

/-! ## What every step keeps -/

/-- What is known of an instance that is being handled. -/
def Handling.Right (among : Instance → Prop) : Handling → Prop
  | .passing i p => among i ∧ i.key? = some p.key ∧ p.Sound
  | .ended i key past result =>
    among i ∧ i.key? = some key ∧ ∃ policy, PassCourse policy key past result
  | .rejected i cause => i.key? = none ∧ cause.Permanent

/-- An instance is handled by a pass for its own key from the beginning. -/
theorem Handling.right_begin {among : Instance → Prop} {i : Instance} (deadline : Instant)
    (policy : DriftPolicy) (hi : among i) : (begin deadline policy i).Right among := by
  unfold begin Instance.passKey
  cases hkey : i.key? with
  | some key => exact ⟨hi, hkey, Underway.sound_start deadline policy key⟩
  | none => exact ⟨hkey, .malformed _⟩

/-- Instances of the set lie in namespaces without slashes. -/
theorem slashless_of_key? {among : Instance → Prop} {i : Instance} {key : ObjectKey}
    (hslash : ∀ i, among i → ∀ ns, i.metadata.ns = some ns → '/' ∉ ns.toList) (hi : among i)
    (hkey : i.key? = some key) : key.Slashless := by
  obtain ⟨ns, hns, rfl⟩ := Option.map_eq_some_iff.1 hkey
  exact hslash i hi ns hns

namespace Handlers

variable {among : Instance → Prop} {policy : DriftPolicy} {min max : Duration} {counted : Nat}
  {h h' : Handlers}

/-- What every step keeps: what is known of each instance that is being handled, and the accord of
the books with the history. -/
structure Kept (among : Instance → Prop) (min max : Duration) (counted : Nat) (h : Handlers) :
    Prop where
  right : ∀ x ∈ h.atWork, x.Right among
  accord : Accord min max counted h.books h.history

/-- All of it holds where nothing has been begun yet. -/
theorem Kept.of_idle (hidle : h.atWork = []) (hnew : h.history = [])
    (hfresh : h.books.tracker.failing = Registry.empty) :
    Kept among h.books.tracker.min h.books.tracker.max h.books.metrics.requeues h := by
  constructor
  · intro x hx
    rw [hidle] at hx
    cases hx
  · rw [hnew]
    exact .of_fresh hfresh

/-- Each step keeps what the tracker knows in accord with the history of the settlements. -/
theorem Kept.step (hslash : ∀ i, among i → ∀ ns, i.metadata.ns = some ns → '/' ∉ ns.toList)
    (hkept : Kept among min max counted h) (hstep : Step among policy h h') :
    Kept among min max counted h' := by
  obtain ⟨hright, haccord⟩ := hkept
  cases hstep with
  | @receive b atWork history i hi deadline =>
    -- the books are as before, and one handling more is begun
    refine ⟨?_, haccord⟩
    intro x hx
    rcases List.mem_append.1 hx with hx | hx
    · exact hright x hx
    · obtain rfl := List.mem_singleton.1 hx
      exact Handling.right_begin deadline policy hi
  | @call b before after history i p d c rest hp result =>
    obtain ⟨hi, hkey, hsound⟩ := hright (.passing i p) (by simp)
    exact ⟨forall_replace hright ⟨hi, hkey, hsound.asked hp result⟩, haccord⟩
  | @leave b before after history i p e rest hp =>
    obtain ⟨hi, hkey, hsound⟩ := hright (.passing i p) (by simp)
    -- the trace is one of a pass, so it does not count a delay
    obtain ⟨htracker, hrequeues⟩ := Books.enter_of_ne_requeued (b := b) (hsound.ne_requeued hp)
    exact ⟨forall_replace hright ⟨hi, hkey, hsound.left hp⟩, haccord.of_eq htracker hrequeues⟩
  | @finish b before after history i p result hp elapsed =>
    obtain ⟨hi, hkey, hsound⟩ := hright (.passing i p) (by simp)
    have hended : Handling.Right among (.ended i p.key p.past result) :=
      ⟨hi, hkey, p.policy, hsound.passCourse_of_done hp⟩
    exact ⟨forall_replace hright hended, haccord.of_eq rfl rfl⟩
  | @settle b before after history i key past result =>
    obtain ⟨hi, hkey, policy, hcourse⟩ := hright (.ended i key past result) (by simp)
    have hplain : key.Slashless := slashless_of_key? hslash hi hkey
    -- the handling is over; what is left to see is that the books follow the history
    refine ⟨forall_remove hright, ?_⟩
    cases result with
    | ok r => exact haccord.succeed hkey hplain hcourse
    | error cause => exact haccord.fail past cause hkey hplain
  | @dismiss b before after history i cause =>
    -- an instance without a key is rejected for good, so that no key's place is touched
    obtain ⟨-, hpermanent⟩ := hright (.rejected i cause) (by simp)
    exact ⟨forall_remove hright, haccord.giveUp hpermanent⟩
  | @complain b atWork history i key hi hkey cause =>
    exact ⟨hright, haccord.fail [] cause hkey (slashless_of_key? hslash hi hkey)⟩

/-- Whatever happens in handling instances, the tracker knows their history. -/
theorem Kept.run (hslash : ∀ i, among i → ∀ ns, i.metadata.ns = some ns → '/' ∉ ns.toList)
    (hkept : Kept among min max counted h) (hrun : Relation.ReflTransGen (Step among policy) h h') :
    Kept among min max counted h' := by
  induction hrun with
  | refl => exact hkept
  | tail _ hstep ih => exact ih.step hslash hstep

/-- A step settles one thing at most. -/
theorem Step.history (hstep : Step among policy h h') :
    h'.history = h.history ∨ ∃ e, h'.history = e :: h.history := by
  cases hstep with
  | receive hi deadline => exact .inl rfl
  | call hp result => exact .inl rfl
  | leave hp => exact .inl rfl
  | finish hp elapsed => exact .inl rfl
  | settle => exact .inr ⟨_, rfl⟩
  | dismiss => exact .inr ⟨_, rfl⟩
  | complain hi hkey cause => exact .inr ⟨_, rfl⟩

end Handlers

/-! ## The result -/

/-- **Failures are put off by their number.** Instances of namespaces without slashes are handled in
any order, beginning with nothing at work and a tracker that holds nothing. Whenever something is
settled, a success is followed by another pass at once if its pass created something or found a
conflict, and waits for a change otherwise; a failure waits for a change exactly if it is permanent,
and is else put off by the delay whose place is the number of failures, permanent ones apart, since
the instance's last success. No step but the settling of a success or of such a failure of the
instance itself changes that number and the delay that comes next. The delays given are counted. -/
theorem handlers_put_off {among : Instance → Prop} {policy : DriftPolicy} {start now : Handlers}
    (hslash : ∀ i, among i → ∀ ns, i.metadata.ns = some ns → '/' ∉ ns.toList)
    (hidle : start.atWork = []) (hnew : start.history = [])
    (hfresh : start.books.tracker.failing = Registry.empty)
    (hrun : Relation.ReflTransGen (Handlers.Step among policy) start now) :
    let tracker := start.books.tracker
    (∀ later e earlier, now.history = later ++ e :: earlier →
      (∀ r, e.result = .ok r →
        ((∃ m ∈ e.past, m.Makes) → e.action = .requeue Duration.zero) ∧
        ((¬ ∃ m ∈ e.past, m.Makes) → e.action = .awaitChange)) ∧
      (∀ cause, e.result = .error cause →
        (e.action = .awaitChange ↔ cause.Permanent) ∧
        (¬ cause.Permanent → ∃ key d, e.known.key? = some key ∧ e.action = .requeue d ∧
          ((Backoff.start tracker.min tracker.max).delays
            (streak key earlier + 1))[streak key earlier]? = some d))) ∧
    (∀ next, Handlers.Step among policy now next → ∀ key : ObjectKey, '/' ∉ key.ns.toList →
      (∀ e, next.history = e :: now.history →
        e.known.key? ≠ some key ∨ ∃ cause, e.result = .error cause ∧ cause.Permanent) →
      streak key next.history = streak key now.history ∧
      next.books.tracker.nextDelay key.text = now.books.tracker.nextDelay key.text) ∧
    now.books.metrics.requeues =
      start.books.metrics.requeues + now.history.countP Settlement.putOff := by
  intro tracker
  have hstart : Handlers.Kept among tracker.min tracker.max start.books.metrics.requeues start :=
    .of_idle hidle hnew hfresh
  have hkept := hstart.run hslash hrun
  refine ⟨?_, ?_, hkept.accord.requeues⟩
  · intro later e earlier heq
    have hanswered := hkept.accord.answered later e earlier heq
    refine ⟨hanswered.succeeded, ?_⟩
    intro cause hcause
    exact ⟨hanswered.failed cause hcause, hanswered.delayed cause hcause⟩
  · intro next hstep key hkey hapart
    have hstreak : streak key next.history = streak key now.history := by
      rcases hstep.history with heq | ⟨e, heq⟩
      · rw [heq]
      · rw [heq, streak_cons_of_apart (hapart e heq)]
    refine ⟨hstreak, ?_⟩
    -- on both sides of the step the delay is the one at the place that the streak gives
    have hnext := (hkept.step hslash hstep).accord.nextDelay hkey
    have hnow := hkept.accord.nextDelay hkey
    rw [hstreak, hnow] at hnext
    exact (Option.some.inj hnext).symm

section unavailable

/-- A step with which nothing is settled. -/
def Handlers.Works (among : Instance → Prop) (policy : DriftPolicy) (h h' : Handlers) : Prop :=
  Step among policy h h' ∧ h'.history = h.history

/-- Steps that settle nothing are steps. -/
theorem Handlers.steps_of_works {among : Instance → Prop} {policy : DriftPolicy} {h h' : Handlers}
    (hworks : Relation.ReflTransGen (Works among policy) h h') :
    Relation.ReflTransGen (Step among policy) h h' :=
  hworks.lift id fun _ _ hwork => hwork.1

/-- How the store says that it is unavailable. -/
def outage : StoreError := .unavailable "503"

/-- The books behind a pass for a key that failed in an outage. -/
def Books.strike (b : Books) (key : ObjectKey) : Books :=
  (b.enter (.log (.fetchFailed key outage))).endPass (.error (.store outage)) Duration.zero

/-- The moves of a pass for a key that failed in an outage. -/
def outageMoves (key : ObjectKey) : List Move :=
  [.asked (.getInstance key) (.error outage), .left (.log (.fetchFailed key outage))]

/-- A pass begins in an outage, fails to fetch its instance and ends. -/
theorem Handlers.works_outage {among : Instance → Prop} {policy : DriftPolicy} {i : Instance}
    {key : ObjectKey} (hi : among i) (hkey : i.key? = some key) (b : Books)
    (history : List Settlement) :
    Relation.ReflTransGen (Works among policy) ⟨b, [], history⟩
      ⟨b.strike key, [.ended i key (outageMoves key) (.error (.store outage))], history⟩ := by
  have hbegin : Handling.begin Instant.origin policy i =
      .passing i (.start Instant.origin policy key) := by
    rw [Handling.begin, Instance.passKey, hkey]
  have hreceive : Works among policy ⟨b, [], history⟩
      ⟨b, [.passing i (.start Instant.origin policy key)], history⟩ := by
    rw [← hbegin]
    exact ⟨.receive hi Instant.origin, rfl⟩
  refine (Relation.ReflTransGen.single hreceive).tail
    ⟨@Step.call _ _ _ [] [] _ _ _ _ _ _ rfl (.error outage), rfl⟩ |>.tail
    ⟨@Step.leave _ _ _ [] [] _ _ _ _ _ rfl, rfl⟩ |>.tail
    ⟨@Step.finish _ _ _ [] [] _ _ _ _ rfl Duration.zero, rfl⟩

end unavailable

/-- Nothing has been handled yet; delays go from five seconds to five minutes. -/
def idle : Handlers where
  books := { tracker := { min := Duration.ofSecs 5, max := Duration.ofSecs 300 } }
  atWork := []
  history := []

/-- The instances of one namespace. -/
def inProd (i : Instance) : Prop := i.metadata.ns = some "prod"

theorem slashless_of_inProd (i : Instance) (hi : inProd i) (ns : String)
    (hns : i.metadata.ns = some ns) : '/' ∉ ns.toList := by
  rw [inProd, hns] at hi
  cases hi
  decide

/-- Two passes for an instance fail because the store is unavailable: the first is put off by five
seconds, the second by ten. -/
theorem two_failures_put_off :
    ∃ now, Relation.ReflTransGen (Handlers.Step inProd .report) idle now ∧
      now.history.map (·.action) =
        [.requeue (Duration.ofSecs 10), .requeue (Duration.ofSecs 5)] ∧
      now.books.metrics.requeues = 2 := by
  have hrun : ∃ now a b, Relation.ReflTransGen (Handlers.Step inProd .report) idle now ∧
      now.history =
        [⟨(Identity.mk "mine" "prod" "u-1").bare, outageMoves ⟨"prod", "mine"⟩,
            .error (.store outage), a⟩,
          ⟨(Identity.mk "mine" "prod" "u-1").bare, outageMoves ⟨"prod", "mine"⟩,
            .error (.store outage), b⟩] := by
    have hpass : ∀ b history, Relation.ReflTransGen (Handlers.Step inProd .report)
        ⟨b, [], history⟩
        ⟨b.strike ⟨"prod", "mine"⟩, [.ended (Identity.mk "mine" "prod" "u-1").bare
          ⟨"prod", "mine"⟩ (outageMoves ⟨"prod", "mine"⟩) (.error (.store outage))], history⟩ :=
      fun b history => Handlers.steps_of_works <|
        @Handlers.works_outage inProd .report (Identity.mk "mine" "prod" "u-1").bare
          ⟨"prod", "mine"⟩ rfl rfl b history
    have hfirst := (hpass idle.books []).tail
      (@Handlers.Step.settle _ _ _ [] [] _ _ _ _ _)
    have hsecond := (hfirst.trans (hpass _ _)).tail
      (@Handlers.Step.settle _ _ _ [] [] _ _ _ _ _)
    exact ⟨_, _, _, hsecond, rfl⟩
  obtain ⟨now, a, b, hrun, hhistory⟩ := hrun
  obtain ⟨hsettled, -, hrequeues⟩ := handlers_put_off slashless_of_inProd rfl rfl rfl hrun
  have hsecond := ((hsettled [] _ _ hhistory).2 _ rfl).2
    (by rw [OperatorError.permanent_iff]; decide)
  have hfirst := ((hsettled [_] _ [] hhistory).2 _ rfl).2
    (by rw [OperatorError.permanent_iff]; decide)
  obtain ⟨key, d, hkey, rfl, hd⟩ := hsecond
  obtain ⟨key', d', hkey', rfl, hd'⟩ := hfirst
  cases hkey
  -- the second settlement has one failure behind it, the first has none
  have hten : ((Backoff.start (Duration.ofSecs 5) (Duration.ofSecs 300)).delays 2)[1]? =
      some (Duration.ofSecs 10) := by decide +kernel
  have hfive : ((Backoff.start (Duration.ofSecs 5) (Duration.ofSecs 300)).delays 1)[0]? =
      some (Duration.ofSecs 5) := by decide +kernel
  obtain rfl := Option.some.inj (hten.symm.trans hd)
  obtain rfl := Option.some.inj (hfive.symm.trans hd')
  refine ⟨now, hrun, ?_, ?_⟩
  · rw [hhistory]
    rfl
  · rw [hrequeues, hhistory]
    rfl

end InstanceOperator
