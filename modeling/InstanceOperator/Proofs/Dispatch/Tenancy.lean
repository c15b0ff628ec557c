import InstanceOperator.Proofs.Dispatch.Retry

/-!
# Failures of instances that come and go

The dispatcher knows the instances that exist; passes are begun for these alone, but a pass that is
under way when its instance leaves runs to its end and is settled. The tracker forgets a key on a
success of its instance, and on nothing else: it holds exactly the keys that have failed since
their last success (`Remembers`), whether their instances are still there or not.

So what the tracker holds belongs to present instances as long as instances leave only when they
have not failed since their last success and no pass of theirs is under way
(`tracker_holds_present`). An instance that leaves while it is failing stays in the tracker, and the
one that takes its place inherits its delays (`departed_failure_lingers`).

* `Roster.Step`: what can happen next.
* `Roster.Kept`: what every step keeps, if instances leave at rest.
* `Roster.Kept.atRest_iff`: that is to leave with nothing held against them.
-/

namespace InstanceOperator

/-! ## What the tracker remembers -/

/-- What became of the latest handling of the instance of a key. -/
def latest (key : ObjectKey) (history : List Settlement) : Option Settlement :=
  history.find? fun e => e.known.key? = some key

/-- A failure that counts has a cause, which is not permanent. -/
theorem Settlement.exists_cause_of_fails {key : ObjectKey} {e : Settlement}
    (h : e.fails key = true) :
    ∃ cause, e.result = .error cause ∧ e.known.key? = some key ∧ ¬ cause.Permanent := by
  unfold fails at h
  cases hresult : e.result with
  | ok result => simp [hresult] at h
  | error cause =>
    rw [hresult, Bool.and_eq_true, decide_eq_true_iff] at h
    refine ⟨cause, rfl, h.1, ?_⟩
    intro hpermanent
    have hretry : cause.isRetryable = true := h.2
    rw [OperatorError.permanent_iff.1 hpermanent] at hretry
    cases hretry

/-- An instance with a streak of failures has failed when it was last handled. -/
theorem exists_latest_of_streak {key : ObjectKey} {history : List Settlement}
    (h : 0 < streak key history) :
    ∃ e cause, latest key history = some e ∧ e.result = .error cause := by
  induction history with
  | nil => simp [streak] at h
  | cons e history ih =>
    by_cases hkey : e.known.key? = some key
    · have hlatest : latest key (e :: history) = some e := by
        simp [latest, hkey]
      cases hresult : e.result with
      | error cause => exact ⟨e, cause, hlatest, hresult⟩
      | ok result =>
        -- a success would have ended the streak
        have hsucceeds : e.succeeds key = true := by
          simp [Settlement.succeeds, hkey, hresult, Except.toBool]
        rw [streak_cons_of_succeeds hsucceeds] at h
        omega
    · rw [streak_cons_of_apart (.inl hkey)] at h
      obtain ⟨e', cause, hlatest, hresult⟩ := ih h
      refine ⟨e', cause, ?_, hresult⟩
      simpa [latest, hkey] using hlatest

/-- A key with this text has failed since its last success. -/
def FailedAs (text : String) (history : List Settlement) : Prop :=
  ∃ key : ObjectKey, key.Slashless ∧ key.text = text ∧ 0 < streak key history

section FailedAs

variable {key : ObjectKey} {text : String} {e : Settlement} {history history' : List Settlement}

/-- Only the streaks of keys with this text count. -/
theorem failedAs_congr
    (h : ∀ key : ObjectKey, key.text = text → streak key history' = streak key history) :
    FailedAs text history' ↔ FailedAs text history := by
  constructor
  · rintro ⟨key, hslash, htext, hstreak⟩
    rw [h key htext] at hstreak
    exact ⟨key, hslash, htext, hstreak⟩
  · rintro ⟨key, hslash, htext, hstreak⟩
    rw [← h key htext] at hstreak
    exact ⟨key, hslash, htext, hstreak⟩

/-- What is settled for a key with another text makes no difference. -/
theorem failedAs_cons_of_ne (hkey : e.known.key? = some key) (hne : key.text ≠ text) :
    FailedAs text (e :: history) ↔ FailedAs text history := by
  apply failedAs_congr
  intro key' htext
  apply streak_cons_of_apart
  left
  rw [hkey]
  rintro heq
  cases heq
  exact hne htext

/-- A success ends the streak of the only key with its text. -/
theorem not_failedAs_cons (history : List Settlement) (hslash : key.Slashless)
    (hok : e.succeeds key = true) : ¬ FailedAs key.text (e :: history) := by
  rintro ⟨key', hslash', htext, hstreak⟩
  rw [hslash'.text_inj hslash htext, streak_cons_of_succeeds hok] at hstreak
  omega

/-- A further failure of a key is one since its last success. -/
theorem failedAs_cons (history : List Settlement) (hslash : key.Slashless)
    (hfails : e.fails key = true) : FailedAs key.text (e :: history) := by
  refine ⟨key, hslash, rfl, ?_⟩
  rw [streak_cons_of_fails hfails]
  omega

end FailedAs

/-- The tracker holds the keys that have failed since their last success, and no others. -/
def Remembers (t : Tracker) (history : List Settlement) : Prop :=
  ∀ text, (t.failing.get? text).isSome ↔ FailedAs text history

namespace Remembers

variable {t : Tracker} {history : List Settlement} {key : ObjectKey} {e : Settlement}

/-- A tracker that holds nothing remembers that nothing has happened. -/
theorem of_empty (h : t.failing = Registry.empty) : Remembers t [] := by
  intro text
  rw [h]
  constructor
  · intro hheld
    cases hheld
  · rintro ⟨key, -, -, hstreak⟩
    simp [streak] at hstreak

/-- A success is settled, and its key is forgotten. -/
theorem reset (h : Remembers t history) (hslash : key.Slashless)
    (hkey : e.known.key? = some key) (hok : e.succeeds key = true) :
    Remembers (t.reset key.text) (e :: history) := by
  intro text
  unfold Tracker.reset
  rw [Registry.get?_erase]
  by_cases htext : key.text = text
  · rw [if_pos htext, ← htext]
    have hnone := not_failedAs_cons history hslash hok
    simpa using hnone
  · rw [if_neg htext, h text]
    exact (failedAs_cons_of_ne hkey htext).symm

/-- A failure that is not permanent is settled, and its key is held. -/
theorem fail (h : Remembers t history) (hslash : key.Slashless)
    (hkey : e.known.key? = some key) (hfails : e.fails key = true) :
    Remembers (t.fail key.text) (e :: history) := by
  intro text
  unfold Tracker.fail
  rw [Registry.get?_insert]
  by_cases htext : key.text = text
  · rw [if_pos htext, ← htext]
    have hsome := failedAs_cons history hslash hfails
    simpa using hsome
  · rw [if_neg htext, h text]
    exact (failedAs_cons_of_ne hkey htext).symm

/-- A permanent failure is settled, and the tracker stays as it is. -/
theorem giveUp (h : Remembers t history) {cause : OperatorError} (hresult : e.result = .error cause)
    (hpermanent : cause.Permanent) : Remembers t (e :: history) := by
  intro text
  rw [h text]
  apply (failedAs_congr _).symm
  intro key _
  exact streak_cons_of_apart (.inr ⟨cause, hresult, hpermanent⟩) history

/-- Whatever the failure of an instance with a key is, the tracker goes on to remember. -/
theorem settleFailure {b : Books} (h : Remembers b.tracker history) {i : Instance}
    (past : List Move) (cause : OperatorError) (hkey : i.key? = some key)
    (hslash : key.Slashless) :
    Remembers (b.settleFailure i cause).2.tracker
      (⟨i, past, .error cause, (b.settleFailure i cause).1⟩ :: history) := by
  by_cases hpermanent : cause.Permanent
  · rw [Books.settleFailure_of_permanent hpermanent]
    exact h.giveUp rfl hpermanent
  · obtain ⟨-, htracker, -⟩ := Books.settleFailure_of_not_permanent (b := b) hpermanent hkey
    have hretry : cause.isRetryable = true := OperatorError.isRetryable_of_not_permanent hpermanent
    rw [htracker]
    exact h.fail hslash hkey (by simp [Settlement.fails, hkey, hretry])

end Remembers

/-! ## Handling, as far as the tracker is concerned -/

/-- The instance that is being handled. -/
def Handling.known : Handling → Instance
  | .passing i _ => i
  | .ended i _ _ _ => i
  | .rejected i _ => i

/-- The handling of an instance tells which instance it is. -/
theorem Handling.known_begin (deadline : Instant) (policy : DriftPolicy) (i : Instance) :
    (begin deadline policy i).known = i := by
  unfold begin
  split <;> rfl

/-- The instance of this key is among those that are being handled. -/
def Handlers.WorksOn (h : Handlers) (key : ObjectKey) : Prop :=
  ∃ x ∈ h.atWork, x.known.key? = some key

section several

variable {α : Type} {P Q : α → Prop} {before after : List α} {a b : α}

/-- Something that is left when one is taken away was there before. -/
theorem exists_of_remove (h : ∃ c ∈ before ++ after, P c) : ∃ c ∈ before ++ a :: after, P c := by
  obtain ⟨c, hc, hP⟩ := h
  refine ⟨c, ?_, hP⟩
  rcases List.mem_append.1 hc with hc | hc
  · exact List.mem_append_left _ hc
  · exact List.mem_append_right _ (List.mem_cons_of_mem _ hc)

theorem exists_of_replace (h : ∃ c ∈ before ++ b :: after, P c) (hab : P b → P a) :
    ∃ c ∈ before ++ a :: after, P c := by
  obtain ⟨c, hc, hP⟩ := h
  rcases List.mem_append.1 hc with hc | hc
  · exact ⟨c, List.mem_append_left _ hc, hP⟩
  · rcases List.mem_cons.1 hc with rfl | hc
    · exact ⟨a, by simp, hab hP⟩
    · exact ⟨c, List.mem_append_right _ (List.mem_cons_of_mem _ hc), hP⟩

end several

namespace Handlers

variable {among : Instance → Prop} {policy : DriftPolicy} {min max : Duration} {counted : Nat}
  {h h' : Handlers} {key : ObjectKey}

/-- What can happen among some instances can happen among more. -/
theorem Step.mono {among' : Instance → Prop} (hle : ∀ i, among i → among' i)
    (hstep : Step among policy h h') : Step among' policy h h' := by
  cases hstep with
  | receive hi deadline => exact .receive (hle _ hi) deadline
  | call hp result => exact .call hp result
  | leave hp => exact .leave hp
  | finish hp elapsed => exact .finish hp elapsed
  | settle => exact .settle
  | dismiss => exact .dismiss
  | complain hi hkey cause => exact .complain (hle _ hi) hkey cause

/-- The handling of an instance is only begun if it is one of those that may be handled. -/
theorem Step.worksOn (hstep : Step among policy h h') (hworks : h'.WorksOn key) :
    h.WorksOn key ∨ ∃ i, among i ∧ i.key? = some key := by
  cases hstep with
  | @receive b atWork history i hi deadline =>
    obtain ⟨x, hx, hkey⟩ := hworks
    rcases List.mem_append.1 hx with hx | hx
    · exact .inl ⟨x, hx, hkey⟩
    · right
      rw [List.mem_singleton.1 hx, Handling.known_begin] at hkey
      exact ⟨i, hi, hkey⟩
  | call hp result => exact .inl (exists_of_replace hworks id)
  | leave hp => exact .inl (exists_of_replace hworks id)
  | finish hp elapsed => exact .inl (exists_of_replace hworks id)
  | settle => exact .inl (exists_of_remove hworks)
  | dismiss => exact .inl (exists_of_remove hworks)
  | complain hi hkey cause => exact .inl hworks

/-- A streak begins with an instance that is being handled, or that may be. -/
theorem Step.streak_pos (hstep : Step among policy h h') (hstreak : 0 < streak key h'.history) :
    0 < streak key h.history ∨ h.WorksOn key ∨ ∃ i, among i ∧ i.key? = some key := by
  have hcons : ∀ e : Settlement, h'.history = e :: h.history → e.known.key? ≠ some key →
      0 < streak key h.history := by
    intro e heq hne
    rw [heq, streak_cons_of_apart (.inl hne)] at hstreak
    exact hstreak
  -- only what is settled for the key makes a streak for it, and that was at work or could be
  cases hstep with
  | receive hi deadline => exact .inl hstreak
  | call hp result => exact .inl hstreak
  | leave hp => exact .inl hstreak
  | finish hp elapsed => exact .inl hstreak
  | @settle b before after history i key' past result =>
    by_cases hkey : i.key? = some key
    · exact .inr (.inl ⟨.ended i key' past result, by simp, hkey⟩)
    · exact .inl (hcons _ rfl hkey)
  | @dismiss b before after history i cause =>
    by_cases hkey : i.key? = some key
    · exact .inr (.inl ⟨.rejected i cause, by simp, hkey⟩)
    · exact .inl (hcons _ rfl hkey)
  | @complain b atWork history i key' hi hkey' cause =>
    by_cases hkey : i.key? = some key
    · exact .inr (.inr ⟨i, hi, hkey⟩)
    · exact .inl (hcons _ rfl hkey)

/-- The tracker goes on to remember what has failed. -/
theorem Step.remembers (hslash : ∀ i, among i → ∀ ns, i.metadata.ns = some ns → '/' ∉ ns.toList)
    (hkept : Kept among min max counted h) (hremembers : Remembers h.books.tracker h.history)
    (hstep : Step among policy h h') : Remembers h'.books.tracker h'.history := by
  cases hstep with
  | receive hi deadline => exact hremembers
  | call hp result => exact hremembers
  | @leave b before after history i p e rest hp =>
    -- no trace touches the tracker
    cases e with
    | log n => exact hremembers
    | count event => exact hremembers
  | finish hp elapsed => exact hremembers
  | @settle b before after history i key past result =>
    obtain ⟨hi, hkey, -⟩ := hkept.right (.ended i key past result) (by simp)
    have hplain : key.Slashless := slashless_of_key? hslash hi hkey
    cases result with
    | ok r =>
      -- a success ends the streak and the entry of its key together
      have hok : Settlement.succeeds key
          ⟨i, past, .ok r, (b.settlePass i key (.ok r)).1⟩ = true := by
        simp [Settlement.succeeds, hkey, Except.toBool]
      exact hremembers.reset hplain hkey hok
    | error cause => exact hremembers.settleFailure past cause hkey hplain
  | @dismiss b before after history i cause =>
    obtain ⟨-, hpermanent⟩ := hkept.right (.rejected i cause) (by simp)
    rw [Books.settleFailure_of_permanent hpermanent]
    exact hremembers.giveUp rfl hpermanent
  | @complain b atWork history i key hi hkey cause =>
    exact hremembers.settleFailure [] cause hkey (slashless_of_key? hslash hi hkey)

end Handlers

/-! ## Instances that come and go -/

/-- Something in the life of the instances: one has come or changed, one has left, or a handling of
one has been settled. -/
inductive Occurrence where
  | came (key : ObjectKey)
  | left (key : ObjectKey)
  | settled (e : Settlement)

/-- The settlement that an occurrence is. -/
def Occurrence.settlement? : Occurrence → Option Settlement
  | .settled e => some e
  | _ => none

/-- The instances that exist, their handling, and all that has occurred, the latest first. -/
structure Roster where
  present : Registry ObjectKey Instance
  handlers : Handlers
  chronicle : List Occurrence

namespace Roster

/-- The instance exists. -/
def Exists (r : Roster) (i : Instance) : Prop :=
  ∃ key, i.key? = some key ∧ r.present.get? key = some i

/-- The instance of a key has not failed since its last success, permanent failures apart, and it is
not being handled. -/
def AtRest (r : Roster) (key : ObjectKey) : Prop :=
  streak key r.handlers.history = 0 ∧ ¬ r.handlers.WorksOn key

/-- What can happen next, where the instances are of a given set and leave only when they may.
Handling begins for instances that exist; it ends and is settled whether they still do or not. -/
inductive Step (among : Instance → Prop) (policy : DriftPolicy)
    (mayLeave : Roster → ObjectKey → Prop) : Roster → Roster → Prop where
  | come {r : Roster} {i : Instance} {key : ObjectKey} (hi : among i) (hkey : i.key? = some key) :
      Step among policy mayLeave r
        { r with present := r.present.insert key i, chronicle := .came key :: r.chronicle }
  | leave {r : Roster} {i : Instance} {key : ObjectKey} (hi : r.present.get? key = some i)
      (hmay : mayLeave r key) :
      Step among policy mayLeave r
        { r with present := r.present.erase key, chronicle := .left key :: r.chronicle }
  | work {r : Roster} {h : Handlers} (hstep : Handlers.Step r.Exists policy r.handlers h)
      (hsame : h.history = r.handlers.history) :
      Step among policy mayLeave r { r with handlers := h }
  | settle {r : Roster} {h : Handlers} {e : Settlement}
      (hstep : Handlers.Step r.Exists policy r.handlers h)
      (hnew : h.history = e :: r.handlers.history) :
      Step among policy mayLeave r { r with handlers := h, chronicle := .settled e :: r.chronicle }

/-! ## What every step keeps -/

/-- What every step keeps if instances leave at rest. What is being handled and what has a streak of
failures is present, and no streak outlives a departure. -/
structure Kept (among : Instance → Prop) (min max : Duration) (counted : Nat) (r : Roster) :
    Prop where
  handlers : r.handlers.Kept among min max counted
  remembers : Remembers r.handlers.books.tracker r.handlers.history
  placed : ∀ key i, r.present.get? key = some i → among i ∧ i.key? = some key
  working : ∀ key, r.handlers.WorksOn key → (r.present.get? key).isSome
  failing : ∀ key : ObjectKey, 0 < streak key r.handlers.history → (r.present.get? key).isSome
  history : r.handlers.history = r.chronicle.filterMap Occurrence.settlement?
  departures : ∀ later key earlier, r.chronicle = later ++ .left key :: earlier →
    streak key (earlier.filterMap Occurrence.settlement?) = 0

section step

variable {among : Instance → Prop} {policy : DriftPolicy} {min max : Duration} {counted : Nat}
  {r r' : Roster}

/-- All of it holds where there is no instance and nothing has been begun yet. -/
theorem Kept.of_vacant (hvacant : r.present = Registry.empty) (hidle : r.handlers.atWork = [])
    (hnew : r.handlers.history = []) (hblank : r.chronicle = [])
    (hfresh : r.handlers.books.tracker.failing = Registry.empty) :
    Kept among r.handlers.books.tracker.min r.handlers.books.tracker.max
      r.handlers.books.metrics.requeues r := by
  refine ⟨.of_idle hidle hnew hfresh, ?_, ?_, ?_, ?_, ?_, ?_⟩
  · rw [hnew]
    exact .of_empty hfresh
  · intro key i hi
    rw [hvacant] at hi
    cases hi
  · rintro key ⟨x, hx, -⟩
    rw [hidle] at hx
    cases hx
  · intro key hstreak
    rw [hnew] at hstreak
    simp [streak] at hstreak
  · rw [hnew, hblank]
    rfl
  · intro later key earlier heq
    rw [hblank] at heq
    simp at heq

/-- The tracker holds nothing against an instance exactly if it has not failed since its last
success, so that to be at rest is to have nothing held against it. -/
theorem Kept.atRest_iff {key : ObjectKey} (hkept : Kept among min max counted r)
    (hslash : key.Slashless) : r.AtRest key ↔
      r.handlers.books.tracker.failing.get? key.text = none ∧ ¬ r.handlers.WorksOn key := by
  refine and_congr_left fun _ => ?_
  rw [← Option.isSome_eq_false_iff.trans Option.isNone_iff_eq_none, Bool.eq_false_iff, ne_eq,
    hkept.remembers key.text]
  constructor
  · rintro hstreak ⟨key', hslash', htext, hpos⟩
    rw [hslash'.text_inj hslash htext] at hpos
    omega
  · intro hnone
    apply Nat.eq_zero_of_not_pos
    intro hpos
    exact hnone ⟨key, hslash, rfl, hpos⟩

/-- Instances that exist are of those that may come. -/
theorem Kept.among_of_exists (hkept : Kept among min max counted r) (i : Instance)
    (hi : r.Exists i) : among i := by
  obtain ⟨key, -, hpresent⟩ := hi
  exact (hkept.placed key i hpresent).1

theorem Kept.present_of_exists {key : ObjectKey}
    (h : ∃ i, r.Exists i ∧ i.key? = some key) : (r.present.get? key).isSome := by
  obtain ⟨i, ⟨key', hkey', hpresent⟩, hkey⟩ := h
  rw [hkey] at hkey'
  cases hkey'
  rw [hpresent]
  rfl

/-- With one occurrence more there still is no departure behind a streak, unless it is one. -/
theorem Kept.departures_cons (hkept : Kept among min max counted r) {x : Occurrence}
    (hx : ∀ key, x = .left key →
      streak key (r.chronicle.filterMap Occurrence.settlement?) = 0)
    (later : List Occurrence) (key : ObjectKey) (earlier : List Occurrence)
    (heq : x :: r.chronicle = later ++ .left key :: earlier) :
    streak key (earlier.filterMap Occurrence.settlement?) = 0 := by
  cases later with
  | nil =>
    obtain ⟨hleft, rfl⟩ := List.cons.inj heq
    exact hx key hleft
  | cons x' later => exact hkept.departures later key earlier (List.cons.inj heq).2

/-- Whatever the handling of instances that exist comes to, all but the chronicle is kept. -/
theorem Kept.handle (hslash : ∀ i, among i → ∀ ns, i.metadata.ns = some ns → '/' ∉ ns.toList)
    (hkept : Kept among min max counted r) {h : Handlers}
    (hstep : Handlers.Step r.Exists policy r.handlers h) {chronicle : List Occurrence}
    (hhistory : h.history = chronicle.filterMap Occurrence.settlement?)
    (hdepartures : ∀ later key earlier, chronicle = later ++ .left key :: earlier →
      streak key (earlier.filterMap Occurrence.settlement?) = 0) :
    Kept among min max counted { r with handlers := h, chronicle } := by
  -- the handlers are kept for all instances that may come, of which those that exist are some
  have hwide : Handlers.Step among policy r.handlers h := hstep.mono hkept.among_of_exists
  refine ⟨hkept.handlers.step hslash hwide, hwide.remembers hslash hkept.handlers hkept.remembers,
    hkept.placed, ?_, ?_, hhistory, hdepartures⟩
  · intro key hworks
    rcases hstep.worksOn hworks with hworks | hexists
    · exact hkept.working key hworks
    · exact present_of_exists hexists
  · intro key hstreak
    rcases hstep.streak_pos hstreak with hstreak | hworks | hexists
    · exact hkept.failing key hstreak
    · exact hkept.working key hworks
    · exact present_of_exists hexists

/-- Each step keeps the tracker in accord with the history, and whatever is held against an instance
with one that exists. -/
theorem Kept.step (hslash : ∀ i, among i → ∀ ns, i.metadata.ns = some ns → '/' ∉ ns.toList)
    (hkept : Kept among min max counted r) (hstep : Step among policy AtRest r r') :
    Kept among min max counted r' := by
  cases hstep with
  | @come i key hi hkey =>
    -- whatever was present for a key, something still is
    refine ⟨hkept.handlers, hkept.remembers, ?_, ?_, ?_, hkept.history,
      hkept.departures_cons (by simp)⟩
    · intro key' j hj
      rw [Registry.get?_insert] at hj
      by_cases heq : key = key'
      · rw [if_pos heq] at hj
        cases hj
        exact ⟨hi, heq ▸ hkey⟩
      · rw [if_neg heq] at hj
        exact hkept.placed key' j hj
    · intro key' hworks
      rw [Registry.get?_insert]
      split
      · rfl
      · exact hkept.working key' hworks
    · intro key' hstreak
      rw [Registry.get?_insert]
      split
      · rfl
      · exact hkept.failing key' hstreak
  | @leave i key hi hrest =>
    -- the instance has no streak that could outlive it
    obtain ⟨hstreak, hidle⟩ := hrest
    refine ⟨hkept.handlers, hkept.remembers, ?_, ?_, ?_, hkept.history,
      hkept.departures_cons ?_⟩
    · intro key' j hj
      rw [Registry.get?_erase] at hj
      by_cases heq : key = key'
      · rw [if_pos heq] at hj
        cases hj
      · rw [if_neg heq] at hj
        exact hkept.placed key' j hj
    · intro key' hworks
      have hne : key ≠ key' := by
        rintro rfl
        exact hidle hworks
      rw [Registry.get?_erase, if_neg hne]
      exact hkept.working key' hworks
    · intro key' hpos
      have hne : key ≠ key' := by
        rintro rfl
        have hpos' : 0 < streak key r.handlers.history := hpos
        omega
      rw [Registry.get?_erase, if_neg hne]
      exact hkept.failing key' hpos
    · rintro key' ⟨⟩
      rw [← hkept.history]
      exact hstreak
  | work hstep hsame =>
    refine hkept.handle hslash hstep ?_ hkept.departures
    rw [hsame]
    exact hkept.history
  | @settle h e hstep hnew =>
    refine hkept.handle hslash hstep ?_ (hkept.departures_cons (by simp))
    rw [hnew, hkept.history]
    rfl

/-- However instances come, are handled and leave, this accord goes on to hold. -/
theorem Kept.run (hslash : ∀ i, among i → ∀ ns, i.metadata.ns = some ns → '/' ∉ ns.toList)
    (hkept : Kept among min max counted r)
    (hrun : Relation.ReflTransGen (Step among policy AtRest) r r') :
    Kept among min max counted r' := by
  induction hrun with
  | refl => exact hkept
  | tail _ hstep ih => exact ih.step hslash hstep

end step

end Roster

/-- Without a failure of its instance a key has no streak. -/
theorem streak_eq_zero_of_append {key : ObjectKey} {recent earlier : List Occurrence}
    (hnone : ∀ e, .settled e ∈ recent → e.fails key = false)
    (hzero : streak key (earlier.filterMap Occurrence.settlement?) = 0) :
    streak key ((recent ++ earlier).filterMap Occurrence.settlement?) = 0 := by
  induction recent with
  | nil => exact hzero
  | cons x recent ih =>
    have hrest := ih fun e he => hnone e (List.mem_cons_of_mem _ he)
    cases x with
    | came key' => exact hrest
    | left key' => exact hrest
    | settled e =>
      have hfails : e.fails key = false := hnone e List.mem_cons_self
      show streak key (e :: (recent ++ earlier).filterMap Occurrence.settlement?) = 0
      -- a success ends the streak, anything else that is no failure leaves it
      cases hok : e.succeeds key with
      | true => exact streak_cons_of_succeeds hok _
      | false => rw [streak_cons_of_neither hok hfails, hrest]

/-! ## The result -/

/-- Nothing has been handled yet, no instance is known, and delays go from five seconds to five
minutes. -/
def vacant : Roster where
  present := Registry.empty
  handlers := idle
  chronicle := []

/-- **What is held belongs to present instances, if they leave at rest.** Instances of namespaces
without slashes come, are handled, leave and come again in any order, and none leaves after a
failure without a success since, permanent failures apart, or while it is being handled. Then every
key that the tracker holds is that of an instance that exists and has failed when it was last
handled, and the first failure of an instance behind a departure, permanent ones apart, is put off
by the first delay. -/
theorem tracker_holds_present {among : Instance → Prop} {policy : DriftPolicy} {start now : Roster}
    (hslash : ∀ i, among i → ∀ ns, i.metadata.ns = some ns → '/' ∉ ns.toList)
    (hvacant : start.present = Registry.empty) (hidle : start.handlers.atWork = [])
    (hnew : start.handlers.history = []) (hblank : start.chronicle = [])
    (hfresh : start.handlers.books.tracker.failing = Registry.empty)
    (hrun : Relation.ReflTransGen (Roster.Step among policy Roster.AtRest) start now) :
    let tracker := start.handlers.books.tracker
    (∀ text, (now.handlers.books.tracker.failing.get? text).isSome →
      ∃ key i e cause, key.text = text ∧ now.present.get? key = some i ∧
        latest key now.handlers.history = some e ∧ e.result = .error cause) ∧
    (∀ later e recent key earlier,
      now.chronicle = later ++ .settled e :: (recent ++ .left key :: earlier) →
      e.fails key = true → (∀ e', .settled e' ∈ recent → e'.fails key = false) →
      e.action = .requeue (tracker.min.shorter tracker.max)) := by
  intro tracker
  have hstart : Roster.Kept among tracker.min tracker.max start.handlers.books.metrics.requeues
      start := .of_vacant hvacant hidle hnew hblank hfresh
  have hkept := hstart.run hslash hrun
  constructor
  · intro text hheld
    -- what is held has a streak, and what has a streak is present
    obtain ⟨key, -, htext, hstreak⟩ := (hkept.remembers text).1 hheld
    obtain ⟨i, hi⟩ := Option.isSome_iff_exists.1 (hkept.failing key hstreak)
    obtain ⟨e, cause, hlatest, hresult⟩ := exists_latest_of_streak hstreak
    exact ⟨key, i, e, cause, htext, hi, hlatest, hresult⟩
  · intro later e recent key earlier heq hfails hnone
    -- the streak is over when the instance leaves, and nothing has failed since
    have hdeparture : streak key (earlier.filterMap Occurrence.settlement?) = 0 :=
      hkept.departures (later ++ .settled e :: recent) key earlier (by rw [heq]; simp)
    have hstreak : streak key ((recent ++ .left key :: earlier).filterMap
        Occurrence.settlement?) = 0 := streak_eq_zero_of_append hnone hdeparture
    have hhistory : now.handlers.history = later.filterMap Occurrence.settlement? ++ e ::
        (recent ++ .left key :: earlier).filterMap Occurrence.settlement? := by
      rw [hkept.history, heq, List.filterMap_append]
      rfl
    have hanswered := hkept.handlers.accord.answered _ e _ hhistory
    obtain ⟨cause, hresult, hkey, hnot⟩ := Settlement.exists_cause_of_fails hfails
    obtain ⟨key', d, hkey', haction, hd⟩ := hanswered.delayed cause hresult hnot
    -- the key of the failure is the one that the delay was chosen for
    rw [hkey] at hkey'
    cases hkey'
    rw [hstreak] at hd
    have hfirst : tracker.min.shorter tracker.max = d := Option.some.inj hd
    rw [haction, hfirst]

section tenancies

/-- The key of the instances below. -/
private def place : ObjectKey := ⟨"prod", "mine"⟩

/-- An instance of that key. -/
private def tenant : Instance := (Identity.mk "mine" "prod" "u-1").bare

/-- The instance that takes its place. -/
private def successor : Instance := (Identity.mk "mine" "prod" "u-2").bare

/-- What is done about an instance that exists without settling anything is a run of the roster. -/
private theorem Roster.run_of_works {among : Instance → Prop} {policy : DriftPolicy}
    {mayLeave : Roster → ObjectKey → Prop} {r : Roster} {h : Handlers}
    (hworks : Relation.ReflTransGen (Handlers.Works r.Exists policy) r.handlers h) :
    Relation.ReflTransGen (Step among policy mayLeave) r { r with handlers := h } := by
  induction hworks with
  | refl => exact .refl
  | tail _ hlast ih => exact ih.tail (.work hlast.1 hlast.2)

/-- An instance that exists has a pass in an outage, while no other is handled: it fails, and that
is settled. -/
private theorem Roster.run_outage {among : Instance → Prop} {policy : DriftPolicy}
    {mayLeave : Roster → ObjectKey → Prop} {present : Registry ObjectKey Instance} {b : Books}
    {history : List Settlement} {chronicle : List Occurrence} {i : Instance} {k : ObjectKey}
    (hi : present.get? k = some i) (hkey : i.key? = some k) :
    let settled := (b.strike k).settlePass i k (.error (.store outage))
    let e : Settlement := ⟨i, outageMoves k, .error (.store outage), settled.1⟩
    Relation.ReflTransGen (Step among policy mayLeave) ⟨present, ⟨b, [], history⟩, chronicle⟩
      ⟨present, ⟨settled.2, [], e :: history⟩, .settled e :: chronicle⟩ := by
  intro settled e
  have hexists : Roster.Exists ⟨present, ⟨b, [], history⟩, chronicle⟩ i := ⟨k, hkey, hi⟩
  have hworks := @Handlers.works_outage _ policy _ _ hexists hkey b history
  exact (Roster.run_of_works hworks).tail
    (.settle (@Handlers.Step.settle _ _ _ [] [] _ _ _ _ _) rfl)

/-- An instance has a pass in an outage, but its next pass finds it gone, and it leaves with nothing
held against it. Another takes its place and fails: it is put off by five seconds. -/
theorem successor_starts_over :
    ∃ now e earlier, Relation.ReflTransGen (Roster.Step inProd .report Roster.AtRest) vacant now ∧
      now.chronicle = .settled e :: .came place :: .left place :: earlier ∧
      e.action = .requeue (Duration.ofSecs 5) ∧
      (now.handlers.books.tracker.failing.get? place.text).isSome ∧
      now.present.get? place = some successor := by
  have hcome := Relation.ReflTransGen.single
    (@Roster.Step.come inProd .report Roster.AtRest vacant tenant place rfl rfl)
  have hfail := hcome.trans (Roster.run_outage (k := place) (i := tenant) rfl rfl)
  -- the pass that finds the instance gone is a success, so the instance is at rest behind it
  have hreceive := hfail.tail
    (.work (.receive (i := tenant) ⟨place, rfl, rfl⟩ Instant.origin) rfl)
  have hcall := hreceive.tail
    (.work (@Handlers.Step.call _ _ _ [] [] _ _ _ _ _ _ rfl (.error (.notFound ""))) rfl)
  have hfinish := hcall.tail
    (.work (@Handlers.Step.finish _ _ _ [] [] _ _ _ _ rfl Duration.zero) rfl)
  have hsettle := hfinish.tail
    (.settle (@Handlers.Step.settle _ _ _ [] [] _ _ _ _ _) rfl)
  have hnobody : ∀ b history key, ¬ Handlers.WorksOn ⟨b, [], history⟩ key := by
    rintro b history key ⟨x, hx, -⟩
    cases hx
  have hleave := hsettle.tail
    (@Roster.Step.leave _ _ _ _ tenant place rfl ⟨by rfl, hnobody _ _ _⟩)
  have hreturn := hleave.tail (@Roster.Step.come _ _ _ _ successor place rfl rfl)
  have hagain := hreturn.trans (Roster.run_outage (k := place) (i := successor) rfl rfl)
  obtain ⟨-, hfirst⟩ :=
    tracker_holds_present slashless_of_inProd rfl rfl rfl rfl rfl hagain
  have haction := hfirst [] _ [.came place] place _ rfl rfl (by simp)
  refine ⟨_, _, _, hagain, rfl, ?_, rfl, rfl⟩
  rw [haction]
  decide +kernel

/-- Where instances may leave after a failure, the tracker keeps what it holds for an instance that
is gone: one that has had a pass in an outage leaves, another takes its place, and the first failure
of the successor is put off by ten seconds, the second of the delays. -/
theorem departed_failure_lingers :
    let mayLeave : Roster → ObjectKey → Prop := fun r key => ¬ r.handlers.WorksOn key
    ∃ gone now e earlier,
      Relation.ReflTransGen (Roster.Step inProd .report mayLeave) vacant gone ∧
      (gone.handlers.books.tracker.failing.get? place.text).isSome ∧
      (∀ key, gone.present.get? key = none) ∧
      Relation.ReflTransGen (Roster.Step inProd .report mayLeave) gone now ∧
      now.chronicle = .settled e :: .came place :: .left place :: earlier ∧
      e.fails place = true ∧ e.action = .requeue (Duration.ofSecs 10) := by
  intro mayLeave
  have hcome := Relation.ReflTransGen.single
    (@Roster.Step.come inProd .report mayLeave vacant tenant place rfl rfl)
  have hfail := hcome.trans (Roster.run_outage (k := place) (i := tenant) rfl rfl)
  have hidle : ∀ b history key, ¬ Handlers.WorksOn ⟨b, [], history⟩ key := by
    rintro b history key ⟨x, hx, -⟩
    cases hx
  have hleave := hfail.tail (@Roster.Step.leave _ _ _ _ tenant place rfl (hidle _ _ _))
  refine ⟨_, _, _, _, hleave, rfl, ?_,
    .trans (.single (@Roster.Step.come _ _ _ _ successor place rfl rfl))
      (Roster.run_outage (k := place) (i := successor) rfl rfl), rfl, rfl, ?_⟩
  · intro key
    rfl
  · decide +kernel

end tenancies

end InstanceOperator
