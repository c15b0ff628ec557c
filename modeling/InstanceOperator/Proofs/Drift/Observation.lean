import InstanceOperator.Proofs.Site.Sequence

/-!
# Reporting differences only observes

Whether differences are reported or not makes no difference but the report: carried out under either
policy, the same deeds come to the same, take the same time, make the same calls, leave the same
store behind, and are entered into the books in the same way, apart from what the books say about
differences.

A program that reports differences is compared with the same program without the traces of them
(`Program.mute`). Leaving these out of a pass gives the pass that ignores differences (`mute_pass`),
and it has no effect on a run but that the traces are missing (`run_mute`).

* `run_mute`: a run without the traces of differences.
* `withoutDrift_enter`: what entering a trace does to the rest of the books.
* `drift_policy_only_observes`: the result for sequences of deeds.
-/

namespace InstanceOperator

/-! ## Traces of differences -/

/-- The notice is about differences. -/
def Notice.tellsDrift : Notice → Bool
  | .drifted _ _ _ => true
  | _ => false

/-- The event is a difference. -/
def MetricEvent.tellsDrift : MetricEvent → Bool
  | .drifted _ => true
  | _ => false

/-- The trace is about differences. -/
def Effect.tellsDrift : Effect → Bool
  | .log n => n.tellsDrift
  | .count e => e.tellsDrift

namespace Program

variable {α β : Type}

/-- The program that leaves no traces of differences. -/
def mute : Program α → Program α
  | .done a => .done a
  | .emit e rest => if e.tellsDrift then rest.mute else .emit e rest.mute
  | .ask d c rest => .ask d c fun result => (rest result).mute

/-- Leaving traces out of two programs one after the other is leaving them out of both. -/
theorem mute_bind (p : Program α) (f : α → Program β) :
    (p.bind f).mute = p.mute.bind fun a => (f a).mute := by
  induction p with
  | done a => rfl
  | emit e rest ih =>
    simp only [bind, mute]
    split
    · exact ih
    · rw [ih]
      rfl
  | ask d c rest ih => simp only [bind, mute, ih]

end Program

section programs

variable {α : Type} (deadline : Instant) (policy : DriftPolicy)

/-- Nothing but the report of differences is left out of a report of differences. -/
theorem mute_reportDrift (want live : Dependent) (rest : Program α) :
    (reportDrift policy want live rest).mute = rest.mute := by
  unfold reportDrift
  split <;> rfl

/-- Under the policy that ignores differences there is nothing to leave out. -/
theorem reportDrift_ignore (want live : Dependent) (rest : Program α) :
    reportDrift .ignore want live rest = rest :=
  if_neg fun h => nomatch h.1

/-- Ensuring without a report is ensuring under the other policy. -/
theorem mute_ensure (want : Dependent) :
    (ensure deadline policy want).mute = ensure deadline .ignore want := by
  unfold ensure
  simp only [Program.mute]
  congr 1
  funext looked
  rcases looked with e | live
  · -- only what is found is compared with what is wanted
    simp only [settleLookup]
    split
    · simp only [Program.mute]
      congr 1
      funext made
      rcases made with e' | ⟨⟩ <;> rfl
    · rfl
  · simp only [settleLookup, mute_reportDrift, reportDrift_ignore]
    rfl

/-- So is ensuring several dependents, since reports do not change how the pass goes on. -/
theorem mute_converge (key : ObjectKey) (wants : List Dependent) :
    (converge deadline policy key wants).mute = converge deadline .ignore key wants := by
  induction wants with
  | nil => rfl
  | cons want rest ih =>
    simp only [converge, Program.mute_bind, mute_ensure]
    congr 1
    funext outcome
    -- only behind a dependent that is there does the pass go on
    cases outcome with
    | alreadyExists => exact ih
    | created => rfl
    | createConflict => rfl
    | createFailed e => rfl
    | lookupFailed e => rfl

/-- A pass without the traces of differences is the pass that ignores them. -/
theorem mute_pass (key : ObjectKey) :
    (pass deadline policy key).mute = pass deadline .ignore key := by
  unfold pass
  simp only [Program.mute]
  congr 1
  funext fetched
  rcases fetched with e | i
  · simp only [settleFetch]
    split <;> rfl
  · simp only [settleFetch, convergeInstance]
    split
    · rfl
    · split
      · rfl
      · exact mute_converge deadline policy key _

end programs

/-! ## Runs -/

/-- The state of a run without the traces of differences. -/
def Run.mute (r : Run) : Run :=
  { r with effects := r.effects.filter fun e => !e.tellsDrift }

namespace Run

variable (r : Run)

/-- A trace of differences is left out, any other stays. -/
theorem mute_leave (e : Effect) :
    (r.leave e).mute = if e.tellsDrift then r.mute else r.mute.leave e := by
  unfold mute leave
  rw [List.filter_append]
  cases h : e.tellsDrift <;> simp [h]

/-- No call is answered by the traces. -/
theorem answer_mute (waits : Waits) (d : Instant) (c : Call) :
    r.mute.answer waits d c =
      ((r.answer waits d c).1, (r.answer waits d c).2.mute) := by
  -- the traces aside, both states are the same
  show answer waits ⟨r.store, r.now, r.made, r.mute.effects⟩ d c = _
  unfold answer
  cases waits r.made c with
  | none => rfl
  | some wait =>
    by_cases hle : r.now + wait ≤ r.patience d
    · have hmute : r.now + wait ≤ (Run.mk r.store r.now r.made r.mute.effects).patience d := hle
      simp only [if_pos hle, if_pos hmute]
      rcases r.store.serve c with ⟨_ | result, t⟩ <;> rfl
    · have hmute : ¬ r.now + wait ≤ (Run.mk r.store r.now r.made r.mute.effects).patience d := hle
      simp only [if_neg hle, if_neg hmute]
      rfl

end Run

/-- Without the traces of differences a program does what it does with them. -/
theorem run_mute {α : Type} (waits : Waits) (p : Program α) (r : Run) :
    p.mute.run waits r.mute = ((p.run waits r).1, (p.run waits r).2.mute) := by
  induction p generalizing r with
  | done a => rfl
  | emit e rest ih =>
    -- the trace is missing on both sides, or left on both
    have hrest := ih (r.leave e)
    rw [Run.mute_leave] at hrest
    unfold Program.mute
    cases he : e.tellsDrift <;> simpa [he, Program.run] using hrest
  | ask d c rest ih =>
    simp only [Program.mute, Program.run, Run.answer_mute]
    exact ih _ _

/-! ## Books -/

namespace Books

/-- The books without what they say about differences. -/
def withoutDrift (b : Books) : Books :=
  { b with
    metrics := { b.metrics with drifted := PerKind.const 0 }
    log := b.log.filter fun n => !n.tellsDrift }

theorem withoutDrift_write {n : Notice} (h : n.tellsDrift = false) (b : Books) :
    (b.write n).withoutDrift = b.withoutDrift.write n := by
  unfold withoutDrift write
  simp [h]

/-- All counters but the one of differences are kept. -/
theorem withoutDrift_count {e : MetricEvent} (h : e.tellsDrift = false) (b : Books) :
    (b.count e).withoutDrift = b.withoutDrift.count e := by
  cases e with
  | drifted kind => cases h
  | failed kind phase => cases phase <;> rfl
  | passEnded result elapsed => rfl
  | created kind => rfl
  | requeued => rfl
  | ready => rfl

/-- The traces of differences are lost on the rest of the books, which take the other ones. -/
theorem withoutDrift_enter (b : Books) (e : Effect) :
    (b.enter e).withoutDrift =
      if e.tellsDrift then b.withoutDrift else b.withoutDrift.enter e := by
  cases e with
  | log n =>
    cases h : n.tellsDrift with
    | true => simp [enter, write, withoutDrift, Effect.tellsDrift, h]
    | false =>
      simp only [Effect.tellsDrift, h]
      exact withoutDrift_write h b
  | count event =>
    cases h : event.tellsDrift with
    | true =>
      cases event with
      | drifted kind => rfl
      | _ => cases h
    | false =>
      simp only [Effect.tellsDrift, h]
      exact withoutDrift_count h b

/-- Traces about differences do not reach the other books. -/
theorem withoutDrift_foldl (b : Books) (es : List Effect) :
    (es.foldl enter b).withoutDrift =
      (es.filter fun e => !e.tellsDrift).foldl enter b.withoutDrift := by
  induction es generalizing b with
  | nil => rfl
  | cons e es ih =>
    rw [List.foldl_cons, ih, withoutDrift_enter]
    cases h : e.tellsDrift <;> simp [h]

/-- Other traces than those of differences do not count differences. -/
theorem drifted_foldl {es : List Effect} (h : ∀ e ∈ es, e.tellsDrift = false) (b : Books) :
    (es.foldl enter b).metrics.drifted = b.metrics.drifted := by
  induction es generalizing b with
  | nil => rfl
  | cons e es ih =>
    have hone : (b.enter e).metrics.drifted = b.metrics.drifted := by
      have he := h e List.mem_cons_self
      cases e with
      | log n => rfl
      | count event =>
        cases event with
        | drifted kind => cases he
        | failed kind phase => cases phase <;> rfl
        | passEnded result elapsed => rfl
        | created kind => rfl
        | requeued => rfl
        | ready => rfl
    rw [List.foldl_cons, ih (fun e' he' => h e' (List.mem_cons_of_mem _ he')), hone]

/-- What follows the end of a pass does not depend on what the books say about differences, and adds
nothing to it. -/
theorem withoutDrift_settlePass (b : Books) (i : Instance) (key : ObjectKey) (result : PassEnd) :
    b.withoutDrift.settlePass i key result =
      ((b.settlePass i key result).1, (b.settlePass i key result).2.withoutDrift) ∧
    (b.settlePass i key result).2.metrics.drifted = b.metrics.drifted := by
  rcases result with cause | result
  · simp only [settlePass, settleFailure]
    cases cause.isRetryable with
    | true =>
      refine ⟨?_, rfl⟩
      simp only [if_true]
      rw [withoutDrift_count rfl, withoutDrift_write rfl]
      rfl
    | false =>
      refine ⟨?_, rfl⟩
      simp only [Bool.false_eq_true, if_false]
      rw [withoutDrift_write rfl]
  · exact ⟨rfl, rfl⟩

end Books

/-! ## Deeds -/

/-- Two sites with the same store, whose books differ in what they say about differences at most. -/
structure Site.Matches (s t : Site) : Prop where
  store : s.store = t.store
  books : s.books.withoutDrift = t.books.withoutDrift

namespace Site

variable {s t : Site}

/-- A program and the program without the traces of differences, on sites that match. -/
theorem Matches.perform {α : Type} (h : s.Matches t) (waits : Waits)
    (p : Program α) :
    (s.perform waits p.mute).1 = (t.perform waits p).1 ∧
    (s.perform waits p.mute).2.1 = (t.perform waits p).2.1 ∧
    (s.perform waits p.mute).2.2.Matches (t.perform waits p).2.2 ∧
    (s.perform waits p.mute).2.2.books.metrics.drifted = s.books.metrics.drifted := by
  -- nothing is to be left out of a run that has not begun
  have hrun : p.mute.run waits { store := s.store } =
      ((p.run waits { store := t.store }).1,
        (p.run waits { store := t.store }).2.mute) := by
    rw [← run_mute, h.store]
    rfl
  unfold Site.perform
  rw [hrun]
  refine ⟨rfl, rfl, ⟨rfl, ?_⟩, ?_⟩
  · show Books.withoutDrift (List.foldl _ _ _) = Books.withoutDrift (List.foldl _ _ _)
    rw [Books.withoutDrift_foldl, Books.withoutDrift_foldl, h.books, Run.mute, List.filter_filter]
    simp only [Bool.and_self]
  · apply Books.drifted_foldl
    intro e he
    simpa using (List.mem_filter.1 he).2

/-- What one deed comes to on sites that match, if differences are ignored on the first. -/
theorem Matches.carryOut (h : s.Matches t) (policy : DriftPolicy) (deed : Deed) :
    (s.carryOut .ignore deed).1 = (t.carryOut policy deed).1 ∧
    (s.carryOut .ignore deed).2.Matches (t.carryOut policy deed).2 ∧
    (s.carryOut .ignore deed).2.books.metrics.drifted = s.books.metrics.drifted := by
  cases deed with
  | pass key deadline waits =>
    obtain ⟨hvalue, htime, hmatches, hdrifted⟩ := h.perform waits (pass deadline policy key)
    rw [mute_pass] at hvalue htime hmatches hdrifted
    unfold Site.carryOut
    simp only [hvalue, htime]
    refine ⟨trivial, ⟨hmatches.store, ?_⟩, hdrifted⟩
    show (Books.count _ _).withoutDrift = (Books.count _ _).withoutDrift
    rw [Books.withoutDrift_count rfl, Books.withoutDrift_count rfl, hmatches.books]
  | ensure want deadline waits =>
    obtain ⟨hvalue, htime, hmatches, hdrifted⟩ := h.perform waits (ensure deadline policy want)
    rw [mute_ensure] at hvalue htime hmatches hdrifted
    unfold Site.carryOut
    simp only [hvalue, htime]
    exact ⟨trivial, hmatches, hdrifted⟩
  | settle known key result =>
    -- both books settle as the same books without differences do
    obtain ⟨hs, hdrifted⟩ := s.books.withoutDrift_settlePass known key result
    obtain ⟨ht, -⟩ := t.books.withoutDrift_settlePass known key result
    rw [h.books, ht] at hs
    obtain ⟨haction, hbooks⟩ := Prod.mk.inj hs
    exact ⟨congrArg Upshot.settled haction.symm, ⟨h.store, hbooks.symm⟩, hdrifted⟩
  | change ch =>
    refine ⟨rfl, ⟨?_, h.books⟩, rfl⟩
    show ch.apply s.store = ch.apply t.store
    rw [h.store]

/-- Under either policy a sequence of deeds has the same outcomes, and leaves matching sites
behind. -/
theorem Matches.after (h : s.Matches t) (policy : DriftPolicy) (deeds : List Deed) :
    s.upshots .ignore deeds = t.upshots policy deeds ∧
    (s.after .ignore deeds).Matches (t.after policy deeds) ∧
    (s.after .ignore deeds).books.metrics.drifted = s.books.metrics.drifted := by
  induction deeds generalizing s t with
  | nil => exact ⟨rfl, h, rfl⟩
  | cons deed deeds ih =>
    obtain ⟨hupshot, hmatches, hdrifted⟩ := h.carryOut policy deed
    obtain ⟨hupshots, hafter, hstill⟩ := ih hmatches
    exact ⟨List.cons_eq_cons.2 ⟨hupshot, hupshots⟩, hafter, hstill.trans hdrifted⟩

end Site

/-- **Reporting differences only observes.** Take any deeds, one after the other, on any site: passes
and single ensurings within any times and with any waits, ends of passes that are settled, objects
that are stored and deleted, calls that are made to fail. Whether differences are ignored or
reported, each deed comes to the same and takes the same time; the store behind is the same, with
its instances and dependents, the calls that it remembers and its count of creations; and the books
are the same apart from what they say about differences. If differences are ignored, none is ever
counted. Every beginning of a sequence of deeds is such a sequence, so this is so step by step. -/
theorem drift_policy_only_observes (s : Site) (deeds : List Deed) :
    let silent := s.after .ignore deeds
    let telling := s.after .report deeds
    s.upshots .ignore deeds = s.upshots .report deeds ∧
    silent.store = telling.store ∧
    silent.books.withoutDrift = telling.books.withoutDrift ∧
    silent.books.metrics.drifted = s.books.metrics.drifted := by
  intro silent telling
  have hstart : s.Matches s := ⟨rfl, rfl⟩
  obtain ⟨hupshots, hmatches, hdrifted⟩ := hstart.after .report deeds
  exact ⟨hupshots, hmatches.store, hmatches.books, hdrifted⟩

end InstanceOperator
