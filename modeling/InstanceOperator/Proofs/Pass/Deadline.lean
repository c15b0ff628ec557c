import InstanceOperator.Config.Load
import InstanceOperator.Proofs.Desired.Dependents
import InstanceOperator.Proofs.Pass.Journal
import InstanceOperator.Proofs.Time.Instant

/-!
# One deadline for a whole pass

A pass computes one deadline when it begins, and makes all its calls with it. As long as they wait
no longer than the timeout altogether, the waiting makes no difference. The first call that would
take the pass beyond the deadline is given up: it does not reach the store, no call follows it, and
the pass fails with an error that names it and that another attempt may overcome. No pass goes on
beyond its deadline. Where the clock has no reading for the deadline, there is no pass at all.

That the deadline is the same for every call is a property of the program (`pass_boundedBy`), on
which everything else rests: a call with a deadline of its own could go on beyond that of the
others. The run of a program with waiting times is compared with its run without any, call by call.
The states of the two differ in the time on the clock only (`Run.Alike`).

* `Program.BoundedBy`: all calls of a program have one deadline.
* `Waits.total`, `Waits.InTime`: what calls wait altogether.
* `run_of_inTime`: calls in time make no difference.
* `run_of_overdue`: where the run with waiting times ends.
* `pass_keeps_deadline`: the result for a pass.
-/

namespace InstanceOperator

/-! ## One deadline for all calls -/

/-- Every call of the program is given up at the same deadline. -/
def Program.BoundedBy {α : Type} (deadline : Instant) : Program α → Prop
  | .done _ => True
  | .emit _ rest => rest.BoundedBy deadline
  | .ask d _ rest => d = deadline ∧ ∀ result, (rest result).BoundedBy deadline

section bounded

variable {α β : Type} {deadline : Instant}

/-- Programs with one deadline, one after the other, have one deadline. -/
theorem Program.BoundedBy.bind {p : Program α} {f : α → Program β} (hp : p.BoundedBy deadline)
    (hf : ∀ a, (f a).BoundedBy deadline) : (p.bind f).BoundedBy deadline := by
  induction p with
  | done a => exact hf a
  | emit e rest ih => exact ih hp
  | ask d c rest ih =>
    obtain ⟨hd, hrest⟩ := hp
    exact ⟨hd, fun result => ih result (hrest result)⟩

/-- The lookup and the creation behind it have the same deadline. -/
theorem ensure_boundedBy (deadline : Instant) (policy : DriftPolicy) (want : Dependent) :
    (ensure deadline policy want).BoundedBy deadline := by
  refine ⟨rfl, ?_⟩
  rintro (e | live)
  · rw [settleLookup]
    split
    · -- the creation is made with the deadline of the lookup before it
      refine ⟨rfl, ?_⟩
      rintro (e' | ⟨⟩) <;> trivial
    · trivial
  · rw [settleLookup, reportDrift]
    split <;> trivial

/-- No dependent gets a deadline of its own. -/
theorem converge_boundedBy (deadline : Instant) (policy : DriftPolicy) (key : ObjectKey)
    (wants : List Dependent) : (converge deadline policy key wants).BoundedBy deadline := by
  induction wants with
  | nil => trivial
  | cons want rest ih =>
    apply (ensure_boundedBy deadline policy want).bind
    intro o
    cases o with
    | alreadyExists => exact ih
    | created => trivial
    | createConflict => trivial
    | createFailed cause => trivial
    | lookupFailed cause => trivial

/-- All calls of a pass share its deadline. -/
theorem pass_boundedBy (deadline : Instant) (policy : DriftPolicy) (key : ObjectKey) :
    (pass deadline policy key).BoundedBy deadline := by
  refine ⟨rfl, ?_⟩
  intro fetched
  apply settleFetch_elim
  case served =>
    intro i desired _ _
    exact converge_boundedBy deadline policy key _
  all_goals intros; trivial

end bounded

/-! ## Waiting altogether -/

namespace Waits

/-- How long calls wait one after the other, where some calls were made before. There is no such
time if one of the calls waits for ever. -/
def total (waits : Waits) (made : Nat) : List Call → Option Nat
  | [] => some 0
  | c :: cs => (waits made c).bind fun wait => (waits.total (made + 1) cs).map (wait + ·)

/-- From the beginning of a run on, calls do not wait longer than a span of time altogether. -/
def Within (waits : Waits) (timeout : Duration) (calls : List Call) : Prop :=
  ∃ time, waits.total 0 calls = some time ∧ time ≤ timeout.toNanos

/-- From a state of a run on, calls do not wait beyond the deadline. -/
def InTime (waits : Waits) (deadline : Instant) (r : Run) (calls : List Call) : Prop :=
  ∃ time, waits.total r.made calls = some time ∧ r.now + time ≤ deadline.toNanos

variable {waits : Waits} {deadline : Instant} {r : Run} {c : Call} {cs : List Call}

/-- At the beginning of a run, being in time is a matter of the time that is left. -/
theorem inTime_iff_within {timeout : Duration} (hmade : r.made = 0)
    (hdeadline : deadline.toNanos = r.now + timeout.toNanos) :
    waits.InTime deadline r cs ↔ waits.Within timeout cs := by
  unfold InTime Within
  rw [hmade, hdeadline]
  simp only [Int.add_le_add_iff_left, Int.ofNat_le]

/-- Without calls there is nothing to wait for. -/
theorem inTime_nil : waits.InTime deadline r [] ↔ r.now ≤ deadline.toNanos := by
  constructor
  · rintro ⟨time, htime, hle⟩
    cases htime
    simpa using hle
  · intro hle
    exact ⟨0, rfl, by simpa using hle⟩

/-- Calls are in time if the first of them is, and the others are behind it. -/
theorem inTime_cons : waits.InTime deadline r (c :: cs) ↔
    ∃ wait, waits r.made c = some wait ∧ r.now + wait ≤ deadline.toNanos ∧
      waits.InTime deadline { r with now := r.now + wait, made := r.made + 1 } cs := by
  constructor
  · rintro ⟨time, htime, hle⟩
    obtain ⟨wait, hwait, hrest⟩ := Option.bind_eq_some_iff.1 htime
    obtain ⟨others, hothers, rfl⟩ := Option.map_eq_some_iff.1 hrest
    refine ⟨wait, hwait, by omega, others, hothers, ?_⟩
    show r.now + wait + others ≤ deadline.toNanos
    omega
  · rintro ⟨wait, hwait, -, others, hothers, hle⟩
    have hsum : r.now + wait + others ≤ deadline.toNanos := hle
    refine ⟨wait + others, ?_, by omega⟩
    exact Option.bind_eq_some_iff.2 ⟨wait, hwait, Option.map_eq_some_iff.2 ⟨others, hothers, rfl⟩⟩

end Waits

/-! ## One call -/

namespace Run

/-- Two states of runs that differ in the time on the clock at most. -/
structure Alike (r r' : Run) : Prop where
  store : r.store = r'.store
  made : r.made = r'.made
  effects : r.effects = r'.effects

variable {deadline : Instant} {waits : Waits} {r r' : Run} {c : Call}

/-- A trace takes no time. -/
theorem Alike.leave (h : r.Alike r') (e : Effect) : (r.leave e).Alike (r'.leave e) := by
  obtain ⟨hstore, hmade, heffects⟩ := h
  refine ⟨hstore, hmade, ?_⟩
  show r.effects ++ [e] = r'.effects ++ [e]
  rw [heffects]

/-- Before its deadline a call is given up at the deadline. -/
theorem patience_eq (h : r.now ≤ deadline.toNanos) : r.patience deadline = deadline.toNanos :=
  Int.max_eq_right h

/-- A call in time is answered as the store serves it, or given up if the store is silent. -/
theorem answer_of_inTime {wait : Nat} (hwait : waits r.made c = some wait)
    (hle : r.now + wait ≤ r.patience deadline) :
    r.answer waits deadline c = ((r.store.serve c).1.getD (.error c.expired),
      { r with
        store := (r.store.serve c).2
        now := if (r.store.serve c).1.isSome then r.now + wait else r.patience deadline
        made := r.made + 1 }) := by
  simp only [answer, hwait, if_pos hle]
  rcases r.store.serve c with ⟨_ | result, t⟩
  · rfl
  · rfl

/-- A call that is not in time does not reach the store. -/
theorem answer_of_overdue
    (h : ∀ wait, waits r.made c = some wait → ¬ r.now + wait ≤ r.patience deadline) :
    r.answer waits deadline c = (.error c.expired, r.giveUp deadline) := by
  unfold answer
  split
  · rfl
  · next wait hwait => rw [if_neg (h wait hwait)]

/-- Before its deadline a call does not go on beyond it. -/
theorem now_answer_le (h : r.now ≤ deadline.toNanos) :
    (r.answer waits deadline c).2.now ≤ deadline.toNanos := by
  rw [← patience_eq h]
  unfold answer
  split
  · exact Int.le_refl _
  · split
    · next hle =>
      split
      · exact hle
      · exact Int.le_refl _
    · exact Int.le_refl _

/-- A call in time takes the time that it waits, or all that is left if the store is silent. -/
theorem clock_answer (h : r.now ≤ deadline.toNanos) {wait : Nat}
    (hwait : waits r.made c = some wait) (hle : r.now + wait ≤ deadline.toNanos) :
    (∀ cs, waits.InTime deadline (r.answer waits deadline c).2 cs ↔
        waits.InTime deadline { r with now := r.now + wait, made := r.made + 1 } cs) ∨
      ((r.answer waits deadline c).1 = .error c.expired ∧
        (r.answer waits deadline c).2.now = deadline.toNanos) := by
  rw [answer_of_inTime hwait (by rw [patience_eq h]; exact hle)]
  cases (r.store.serve c).1 with
  | some result => exact .inl fun cs => Iff.rfl
  | none => exact .inr ⟨rfl, patience_eq h⟩

/-- A call in time gets the answer that it gets from the same store if it does not wait. -/
theorem Alike.answer (h : r.Alike r') (hr : r.now ≤ deadline.toNanos) {wait : Nat}
    (hwait : waits r.made c = some wait) (hle : r.now + wait ≤ deadline.toNanos) :
    (r.answer waits deadline c).1 = (r'.answer Waits.zero deadline c).1 ∧
      (r.answer waits deadline c).2.Alike (r'.answer Waits.zero deadline c).2 := by
  obtain ⟨hstore, hmade, heffects⟩ := h
  have hzero : Waits.zero r'.made c = some 0 := rfl
  have hpatient : r.now + wait ≤ r.patience deadline := by
    rw [patience_eq hr]
    exact hle
  rw [answer_of_inTime hwait hpatient,
    answer_of_inTime hzero (by simpa using r'.now_le_patience deadline), hstore]
  refine ⟨rfl, rfl, ?_, heffects⟩
  show r.made + 1 = r'.made + 1
  rw [hmade]

end Run

/-! ## Programs -/

section programs

variable {α : Type} {deadline : Instant} {waits : Waits} {give : Call → α} {p : Program α}
  {r r' : Run}

/-- A program whose calls share a deadline does not go on beyond it. -/
theorem now_run_le (hbounded : p.BoundedBy deadline) (h : r.now ≤ deadline.toNanos) :
    (p.run waits r).2.now ≤ deadline.toNanos := by
  induction p generalizing r with
  | done a => exact h
  | emit e rest ih => exact ih hbounded (r := r.leave e) h
  | ask d c rest ih =>
    obtain ⟨rfl, hrest⟩ := hbounded
    exact ih _ (hrest _) (Run.now_answer_le h)

/-- If the calls that a program makes when none of them waits are in time with their waiting times,
the waiting makes no difference. -/
theorem run_of_inTime (hbounded : p.BoundedBy deadline) (hgives : p.GivesUp give)
    (halike : r.Alike r') (hr : r.now ≤ deadline.toNanos)
    (hin : waits.InTime deadline r (p.calls Waits.zero r')) :
    (p.run waits r).1 = (p.run Waits.zero r').1 ∧
      p.calls waits r = p.calls Waits.zero r' ∧
      (p.run waits r).2.Alike (p.run Waits.zero r').2 := by
  induction p generalizing r r' with
  | done a => exact ⟨rfl, rfl, halike⟩
  | emit e rest ih => exact ih hbounded hgives (halike.leave e) hr hin
  | ask d c rest ih =>
    obtain ⟨rfl, hbounded⟩ := hbounded
    obtain ⟨hends, hrest⟩ := hgives
    obtain ⟨wait, hwait, hle, hbehind⟩ := Waits.inTime_cons.1 hin
    obtain ⟨hresult, halike'⟩ := halike.answer hr hwait hle
    -- both runs are answered the same, so they go on with the same program
    rw [Program.run_ask, Program.run_ask, Program.calls_ask, Program.calls_ask, hresult]
    rw [← hresult] at hbehind ⊢
    have hin' : waits.InTime d (r.answer waits d c).2
        ((rest (r.answer waits d c).1).calls Waits.zero (r'.answer Waits.zero d c).2) := by
      rcases Run.clock_answer hr hwait hle with hclock | ⟨hsilent, hnow⟩
      · exact (hclock _).2 hbehind
      · -- the store was silent, so the call was the last one
        rw [hsilent, hends.calls]
        exact Waits.inTime_nil.2 (Int.le_of_eq hnow)
    obtain ⟨hend, hcalls, hbooks⟩ :=
      ih _ (hbounded _) (hrest _) halike' (Run.now_answer_le hr) hin'
    exact ⟨hend, congrArg _ hcalls, hbooks⟩

/-- If the calls that a program makes when none of them waits come to one that is not in time, the
program ends there: the calls before it are served, and it does not reach the store. -/
theorem run_of_overdue (hbounded : p.BoundedBy deadline) (hgives : p.GivesUp give)
    (halike : r.Alike r') (hr : r.now ≤ deadline.toNanos) {earlier later : List Call} {c : Call}
    (hcalls : p.calls Waits.zero r' = earlier ++ c :: later)
    (hin : waits.InTime deadline r earlier) (hout : ¬ waits.InTime deadline r (earlier ++ [c])) :
    (p.run waits r).1 = give c ∧ p.calls waits r = earlier ++ [c] ∧
      (p.run waits r).2.store = earlier.foldl (fun t c => (t.serve c).2) r.store ∧
      (p.run waits r).2.now = deadline.toNanos := by
  induction p generalizing r r' earlier with
  | done a =>
    rw [Program.calls_done] at hcalls
    simp at hcalls
  | emit e rest ih => exact ih hbounded hgives (halike.leave e) hr hcalls hin hout
  | ask d c₀ rest ih =>
    obtain ⟨rfl, hbounded⟩ := hbounded
    obtain ⟨hends, hrest⟩ := hgives
    rw [Program.calls_ask] at hcalls
    rw [Program.run_ask, Program.calls_ask]
    cases earlier with
    | nil =>
      -- this is the call that is not in time
      obtain ⟨rfl, -⟩ := List.cons.inj hcalls
      have hover : ∀ wait, waits r.made c₀ = some wait → ¬ r.now + wait ≤ r.patience d := by
        intro wait hwait hle
        rw [Run.patience_eq hr] at hle
        exact hout (Waits.inTime_cons.2 ⟨wait, hwait, hle, Waits.inTime_nil.2 hle⟩)
      rw [Run.answer_of_overdue hover]
      obtain ⟨hend, hstore, hnow⟩ := hends.run waits (r.giveUp d)
      refine ⟨hend, ?_, hstore, hnow.trans (Run.patience_eq hr)⟩
      rw [hends.calls]
      rfl
    | cons c₁ earlier =>
      obtain ⟨rfl, htail⟩ := List.cons.inj hcalls
      obtain ⟨wait, hwait, hle, hbehind⟩ := Waits.inTime_cons.1 hin
      obtain ⟨hresult, halike'⟩ := halike.answer hr hwait hle
      rw [← hresult] at htail
      rcases Run.clock_answer hr hwait hle with hclock | ⟨hsilent, -⟩
      · -- the call was served in time, so the rest is late with the same call as before
        have hout' : ¬ waits.InTime d (r.answer waits d c₀).2 (earlier ++ [c]) := by
          intro h
          exact hout (Waits.inTime_cons.2 ⟨wait, hwait, hle, (hclock _).1 h⟩)
        obtain ⟨hend, hmade, hstore, hnow⟩ := ih _ (hbounded _) (hrest _) halike'
          (Run.now_answer_le hr) htail ((hclock _).2 hbehind) hout'
        refine ⟨hend, congrArg _ hmade, ?_, hnow⟩
        have hpatient : r.now + wait ≤ r.patience d := by
          rw [Run.patience_eq hr]
          exact hle
        rw [hstore, Run.answer_of_inTime hwait hpatient]
        rfl
      · -- behind a silent store there is no further call
        rw [hsilent, hends.calls] at htail
        simp at htail

end programs

/-! ## The result -/

section start

variable {timeout : Duration} {policy : DriftPolicy} {key : ObjectKey} {now : Instant}

/-- Exactly the timeouts that end beyond the range of the clock leave no deadline. -/
theorem startPass_eq_none_iff : startPass timeout policy key now = none ↔
    Instant.limit * nanosPerSecond ≤ now.toNanos + timeout.toNanos := by
  rw [startPass, Option.map_eq_none_iff, ← Int.not_lt, ← Instant.exists_after?_iff,
    Option.eq_none_iff_forall_ne_some, not_exists]

/-- All that the clock decides about a pass is its deadline. -/
theorem startPass_eq_some_iff {p : Program PassEnd} : startPass timeout policy key now = some p ↔
    ∃ deadline, now.after? timeout = some deadline ∧ pass deadline policy key = p :=
  Option.map_eq_some_iff

end start

/-- **One deadline for a whole pass.** Take any timeout and any reading of the clock. There is no
pass exactly if the clock has no reading a timeout later. Otherwise all calls of the pass have this
reading as their deadline, and the pass takes no longer than the timeout. Take the calls that it
makes on a store when none of them waits, and any waiting times. If the calls wait no longer than
the timeout altogether, the pass ends as it does without waiting, makes the same calls and leaves
the same store and traces behind. Otherwise it ends with the first call with which they do wait
longer: the calls before it are served, it does not reach the store, no call follows, and the pass
fails when the timeout is over with an error that names the call and is worth another attempt. -/
theorem pass_keeps_deadline (timeout : Duration) (policy : DriftPolicy) (key : ObjectKey)
    (now : Instant) (waits : Waits) (s : MemoryStore) :
    let start : Run := { store := s, now := now.toNanos }
    (startPass timeout policy key now = none ↔
      Instant.limit * nanosPerSecond ≤ now.toNanos + timeout.toNanos) ∧
    ∀ p, startPass timeout policy key now = some p →
      let timed := p.run waits start
      let prompt := p.run Waits.zero start
      let calls := p.calls Waits.zero start
      (∃ deadline : Instant, deadline.toNanos = now.toNanos + timeout.toNanos ∧
        p.BoundedBy deadline) ∧
      timed.2.now ≤ now.toNanos + timeout.toNanos ∧
      (∀ earlier c later, calls = earlier ++ c :: later →
        waits.Within timeout earlier → ¬ waits.Within timeout (earlier ++ [c]) →
        timed.1 = .error (.givenUp c) ∧ (OperatorError.givenUp c).isRetryable = true ∧
          p.calls waits start = earlier ++ [c] ∧
          timed.2.store = earlier.foldl (fun t c => (t.serve c).2) s ∧
          timed.2.now = now.toNanos + timeout.toNanos) ∧
      (waits.Within timeout calls →
        timed.1 = prompt.1 ∧ p.calls waits start = calls ∧
          timed.2.store = prompt.2.store ∧ timed.2.effects = prompt.2.effects) := by
  intro start
  refine ⟨startPass_eq_none_iff, ?_⟩
  intro p hp timed prompt calls
  obtain ⟨deadline, hafter, rfl⟩ := startPass_eq_some_iff.1 hp
  have hdeadline : deadline.toNanos = now.toNanos + timeout.toNanos :=
    Instant.toNanos_of_after? hafter
  have hbounded := pass_boundedBy deadline policy key
  have hgives := pass_givesUp deadline policy key
  have halike : start.Alike start := ⟨rfl, rfl, rfl⟩
  have hstart : start.now ≤ deadline.toNanos := by
    rw [hdeadline]
    exact Int.le_add_of_nonneg_right (Int.natCast_nonneg _)
  -- waits that fit into the timeout are calls that are in time for the deadline
  have hwithin : ∀ cs, waits.Within timeout cs ↔ waits.InTime deadline start cs :=
    fun cs => (Waits.inTime_iff_within rfl hdeadline).symm
  refine ⟨⟨deadline, hdeadline, hbounded⟩, ?_, ?_, ?_⟩
  · rw [← hdeadline]
    exact now_run_le hbounded hstart
  · intro earlier c later hcalls hin hout
    rw [hwithin] at hin hout
    obtain ⟨hend, hmade, hstore, hnow⟩ :=
      run_of_overdue hbounded hgives halike hstart hcalls hin hout
    exact ⟨hend, OperatorError.isRetryable_givenUp c, hmade, hstore, hnow.trans hdeadline⟩
  · intro hin
    obtain ⟨hend, hmade, hbehind⟩ :=
      run_of_inTime hbounded hgives halike hstart ((hwithin _).1 hin)
    exact ⟨hend, hmade, hbehind.store, hbehind.effects⟩

/-- Three calls that wait 1, 2 and 3 do not fit into 5: the deployment is looked up, but its creation
is given up and leaves nothing behind. -/
theorem late_creation_given_up :
    let s := MemoryStore.addInstance {} (Identity.mk "mine" "prod" "u-1").bare
    ∃ p, startPass (Duration.ofNanos 5) .report ⟨"prod", "mine"⟩ Instant.origin = some p ∧
      let timed := p.run (fun n _ => some (n + 1)) { store := s }
      timed.1 =
        .error (.givenUp (.create ((Identity.mk "mine" "prod" "u-1").dependent .deployment))) ∧
      timed.2.store.dependents = Registry.empty ∧ timed.2.store.creations = 0 ∧
      timed.2.now = 5 := by
  intro s
  obtain ⟨-, hpass⟩ := pass_keeps_deadline (Duration.ofNanos 5) .report ⟨"prod", "mine"⟩
    Instant.origin (fun n _ => some (n + 1)) s
  obtain ⟨-, -, hoverdue, -⟩ := hpass _ rfl
  -- the third wait ends at 6
  have hlate : ¬ Waits.Within (fun n _ => some (n + 1)) (Duration.ofNanos 5)
      [.getInstance ⟨"prod", "mine"⟩, .get .deployment ⟨"prod", "mine-deployment"⟩,
        .create ((Identity.mk "mine" "prod" "u-1").dependent .deployment)] := by
    rintro ⟨time, htime, hle⟩
    cases htime
    exact absurd hle (by decide)
  obtain ⟨hend, -, -, hstore, hnow⟩ := hoverdue
    [.getInstance ⟨"prod", "mine"⟩, .get .deployment ⟨"prod", "mine-deployment"⟩] _ [] rfl
    ⟨3, rfl, by decide⟩ hlate
  refine ⟨_, rfl, hend, ?_, ?_, hnow⟩
  · exact (congrArg MemoryStore.dependents hstore).trans rfl
  · exact (congrArg MemoryStore.creations hstore).trans rfl

/-- A timeout that is accepted may be too long for there to be a pass at all, so that there is none
that gives up a call that is never answered. -/
theorem longest_timeout_has_no_pass :
    Config.load (fun name => List.lookup name [("PASS_TIMEOUT_SECS", "18446744073709551615")]) =
      .ok { passTimeout := Duration.ofSecs 18446744073709551615 } ∧
    ¬ ∃ p, startPass (Duration.ofSecs 18446744073709551615) .ignore ⟨"prod", "mine"⟩
        Instant.origin = some p ∧
      (p.run (fun _ _ => none) { store := {} }).1 =
        .error (.givenUp (.getInstance ⟨"prod", "mine"⟩)) := by
  constructor
  · rfl
  · rintro ⟨p, hp, -⟩
    cases hp

end InstanceOperator
