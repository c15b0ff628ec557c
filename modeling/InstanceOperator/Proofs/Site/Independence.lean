import InstanceOperator.Proofs.Metrics.Count
import InstanceOperator.Proofs.Pass.View
import InstanceOperator.Proofs.Site.Ledger
import InstanceOperator.Proofs.Site.Sequence

/-!
# Passes of different instances are independent

Passes for many instances are run one after the other on one store. Each instance's own passes go as
if no other instance had any (`reports_own`): passes of others are not seen from it. So it makes no
difference in which order the passes of different instances are run. What is stored in the end, how
many creations there were and what the books have counted is the same, and so is what each pass of
an instance comes to.

What passes do is collected in reports (`Report`), from which everything that is counted is read off.
Reordering the passes reorders the reports, and keeps those of one instance in their order.

* `reports_own`: an instance's own passes among others, and alone.
* `reports_perm`, `get?_afterAll_eq`: what does not depend on the order.
* `passes_independent`: the result for one pass for each of some instances, in any order.
-/

namespace InstanceOperator

/-! ## Members by their keys -/

section members

variable {α κ : Type} [DecidableEq κ] {f : α → κ} {a : α} {k : κ}

theorem filter_cons_of_key_eq (as : List α) (h : f a = k) :
    (a :: as).filter (f · = k) = a :: as.filter (f · = k) :=
  List.filter_cons_of_pos (by simpa using h)

theorem filter_cons_of_key_ne (as : List α) (h : f a ≠ k) :
    (a :: as).filter (f · = k) = as.filter (f · = k) :=
  List.filter_cons_of_neg (by simpa using h)

/-- Lists that agree on the members of each key have the same members. -/
theorem perm_of_filter_eq {as bs : List α} (h : ∀ k, as.filter (f · = k) = bs.filter (f · = k)) :
    as.Perm bs := by
  classical
  rw [List.perm_iff_count]
  intro a
  have hcount : ∀ l : List α, (l.filter (f · = f a)).count a = l.count a := by
    intro l
    exact List.count_filter (by simp)
  rw [← hcount as, ← hcount bs, h]

end members

/-! ## Reports -/

/-- The event that a move enters. -/
def Move.event? : Move → Option MetricEvent
  | .left (.count e) => some e
  | _ => none

/-- What is known of a pass that has been run. -/
structure Report where
  key : ObjectKey
  moves : List Move
  result : PassEnd
  /-- The time that the pass took, in nanoseconds. -/
  elapsed : Nat

namespace Report

/-- What the pass has come to. -/
def upshot (r : Report) : Upshot := .passed r.key r.result r.elapsed

/-- The events that are counted for the pass: those of its traces, and its end. -/
def events (r : Report) : List MetricEvent :=
  r.moves.filterMap Move.event? ++ [.passEnded r.result.name (Duration.ofNanos r.elapsed)]

end Report

/-- What is known of a pass behind it. -/
def Turn.report (turn : Turn) (s : MemoryStore) : Report where
  key := turn.key
  moves := turn.moves s
  result := turn.result s
  elapsed := turn.elapsed s

/-- What is known of passes that were run one after the other. -/
def reports (s : MemoryStore) : List Turn → List Report
  | [] => []
  | turn :: turns => turn.report s :: reports (turn.after s) turns

/-! ## The passes of one instance -/

/-- The passes for one instance among others are reported, and leave what is seen from the instance,
as if they were run alone. -/
theorem reports_own {key : ObjectKey} {s t : MemoryStore} (hs : s.Filed)
    (h : MemoryStore.SeenAlike key (s.placesFor key) s t) (turns : List Turn) :
    (reports s turns).filter (·.key = key) = reports t (turns.filter (·.key = key)) ∧
      MemoryStore.SeenAlike key (s.placesFor key) (afterAll s turns)
        (afterAll t (turns.filter (·.key = key))) := by
  induction turns generalizing s t with
  | nil => exact ⟨rfl, h⟩
  | cons turn turns ih =>
    have hinstances : (turn.after s).instances = s.instances := (turn.leaves s).instances
    have hfiled := hs.of_instances hinstances
    have hplaces := MemoryStore.placesFor_congr hinstances key
    by_cases hkey : turn.key = key
    · -- the same pass is run on both stores
      subst hkey
      obtain ⟨hmoves, hresult, helapsed, hbehind⟩ := turn.seenAlike_own h
      rw [← hplaces] at hbehind
      obtain ⟨hreports, hafter⟩ := ih hfiled hbehind
      rw [hplaces] at hafter
      have hreport : turn.report s = turn.report t := by
        unfold Turn.report
        rw [hmoves, hresult, helapsed]
      have hown : (turn.report t).key = turn.key := rfl
      rw [filter_cons_of_key_eq turns rfl, reports, reports, ← hreports, hreport,
        filter_cons_of_key_eq _ hown]
      exact ⟨rfl, hafter⟩
    · -- a pass is run on the first store only, and not seen from the instance
      have hbehind : MemoryStore.SeenAlike key (s.placesFor key) (turn.after s) t :=
        (turn.seenAlike_other hs hkey).symm.trans h
      rw [← hplaces] at hbehind
      obtain ⟨hreports, hafter⟩ := ih hfiled hbehind
      rw [hplaces] at hafter
      have hreport : (turn.report s).key ≠ key := hkey
      rw [filter_cons_of_key_ne turns hkey, reports, filter_cons_of_key_ne _ hreport]
      exact ⟨hreports, hafter⟩

/-! ## What does not depend on the order -/

/-- The passes of each instance come in the same order. -/
def SameByKey (turns turns' : List Turn) : Prop :=
  ∀ key, turns.filter (·.key = key) = turns'.filter (·.key = key)

section order

variable {s : MemoryStore} {turns turns' : List Turn}

/-- Passes for one instance do not notice how those for others come between them. -/
theorem reports_own_eq (hs : s.Filed) (h : SameByKey turns turns') (key : ObjectKey) :
    (reports s turns).filter (·.key = key) = (reports s turns').filter (·.key = key) := by
  rw [(reports_own hs (.refl s) turns).1, (reports_own hs (.refl s) turns').1, h key]

/-- The reports are the same but for their order. -/
theorem reports_perm (hs : s.Filed) (h : SameByKey turns turns') :
    (reports s turns).Perm (reports s turns') :=
  perm_of_filter_eq (reports_own_eq hs h)

/-- A place that is for none of the instances passed over keeps what it holds. -/
theorem get?_afterAll_of_unplaced {k : Place} (h : ∀ key, ¬ s.placesFor key k)
    (turns : List Turn) : (afterAll s turns).dependents.get? k = s.dependents.get? k := by
  cases hbefore : s.dependents.get? k with
  | some d => exact (grows_afterAll s turns).dependents k d hbefore
  | none =>
    cases hafter : (afterAll s turns).dependents.get? k with
    | none => rfl
    | some d =>
      obtain ⟨turn, -, hdesired⟩ := desiredFor_afterAll hafter hbefore
      exact absurd ⟨d, hdesired⟩ (h turn.key)

/-- The same is stored in the end. -/
theorem get?_afterAll_eq (hs : s.Filed) (h : SameByKey turns turns') (k : Place) :
    (afterAll s turns).dependents.get? k = (afterAll s turns').dependents.get? k := by
  by_cases hplaced : ∃ key, s.placesFor key k
  · -- what is stored there in the end, the passes for one instance alone have left there
    obtain ⟨key, hkey⟩ := hplaced
    have hone := (reports_own hs (.refl s) turns).2.dependents k hkey
    have hother := (reports_own hs (.refl s) turns').2.dependents k hkey
    rw [hone, hother, h key]
  · have hnone : ∀ key, ¬ s.placesFor key k := fun key hkey => hplaced ⟨key, hkey⟩
    rw [get?_afterAll_of_unplaced hnone, get?_afterAll_of_unplaced hnone]

end order

/-! ## What is counted -/

/-- The store counts what is created along some moves. -/
theorem creations_of_along {s t : MemoryStore} {ms : List Move}
    (h : Along MemoryStore.Replies s ms t) :
    t.creations = s.creations + ms.countP (·.creation?.isSome) := by
  induction ms generalizing s with
  | nil =>
    have ht : t = s := h
    rw [ht]
    rfl
  | cons m ms ih =>
    rw [countP_cons_toNat]
    cases m with
    | left e => exact ih h
    | asked c result =>
      obtain ⟨u, hreply, halong⟩ := h
      rw [ih halong, hreply.creations, Nat.add_assoc, Nat.add_comm (List.countP _ ms)]

/-- The store counts what passes have created. -/
theorem creations_afterAll (s : MemoryStore) (turns : List Turn) :
    (afterAll s turns).creations =
      s.creations + ((reports s turns).flatMap Report.moves).countP (·.creation?.isSome) := by
  induction turns generalizing s with
  | nil => rfl
  | cons turn turns ih =>
    have hone : (turn.after s).creations =
        s.creations + (turn.moves s).countP (·.creation?.isSome) :=
      creations_of_along
        (along_moves turn.waits (pass turn.deadline turn.policy turn.key) { store := s })
    rw [afterAll, ih, hone, reports, List.flatMap_cons, List.countP_append, Nat.add_assoc]
    rfl

/-- Entering the traces of a run counts the events of its moves. -/
theorem metrics_run {α : Type} (waits : Waits) (p : Program α) (r : Run) (b : Books) :
    ((p.run waits r).2.effects.foldl Books.enter b).metrics =
      ((p.moves waits r).filterMap Move.event?).foldl Metrics.record
        (r.effects.foldl Books.enter b).metrics := by
  induction p generalizing r with
  | done a => rfl
  | emit e rest ih =>
    have hrest := ih (r.leave e)
    rw [Run.leave, List.foldl_append] at hrest
    cases e with
    | log n => exact hrest
    | count event => exact hrest
  | ask d c rest ih =>
    have hrest := ih (r.answer waits d c).1 (r.answer waits d c).2
    rw [Run.effects_answer] at hrest
    exact hrest

/-- A pass is entered into the books by its report. -/
theorem metrics_carryOut_pass (turn : Turn) (s : Site) :
    (s.carryOut turn.policy (.pass turn.key turn.deadline turn.waits)).2.books.metrics =
      (turn.report s.store).events.foldl Metrics.record s.books.metrics := by
  have hrun := metrics_run turn.waits (pass turn.deadline turn.policy turn.key) { store := s.store }
    s.books
  have hend : (s.carryOut turn.policy (.pass turn.key turn.deadline turn.waits)).2.books.metrics =
      Metrics.record (List.foldl Books.enter s.books
        ((pass turn.deadline turn.policy turn.key).run turn.waits
          { store := s.store }).2.effects).metrics
        (.passEnded (turn.result s.store).name (Duration.ofNanos (turn.elapsed s.store))) := rfl
  rw [hend, hrun, Report.events, List.foldl_append]
  rfl

/-! ## The result -/

/-- Passes for some instances one after the other, within the same time and with the same waits. -/
def passesFor (deadline : Instant) (waits : Waits) (keys : List ObjectKey) : List Deed :=
  keys.map fun key => .pass key deadline waits

/-- The upshot is that of a pass for the instance of a key. -/
def Upshot.isFor (key : ObjectKey) : Upshot → Bool
  | .passed key' _ _ => key' = key
  | _ => false

/-- What passes on a site leave behind and come to, by their reports. -/
theorem after_passesFor (policy : DriftPolicy) (deadline : Instant) (waits : Waits) (s : Site)
    (keys : List ObjectKey) :
    let turns := keys.map fun key => ⟨key, policy, deadline, waits⟩
    (s.after policy (passesFor deadline waits keys)).store = afterAll s.store turns ∧
    (s.after policy (passesFor deadline waits keys)).books.metrics =
      ((reports s.store turns).flatMap Report.events).foldl Metrics.record s.books.metrics ∧
    s.upshots policy (passesFor deadline waits keys) =
      (reports s.store turns).map Report.upshot := by
  induction keys generalizing s with
  | nil => exact ⟨rfl, rfl, rfl⟩
  | cons key keys ih =>
    obtain ⟨hstore, hmetrics, hupshots⟩ := ih (s.carryOut policy (.pass key deadline waits)).2
    rw [metrics_carryOut_pass ⟨key, policy, deadline, waits⟩ s] at hmetrics
    refine ⟨hstore, ?_, congrArg (_ :: ·) hupshots⟩
    rw [List.map_cons, reports, List.flatMap_cons, List.foldl_append]
    exact hmetrics

/-- **Passes of different instances are independent.** Passes for some instances, one for each time
that its key is listed, are run one after the other on a store in which every instance is filed
under its own namespace and name, whatever else it holds and whichever calls fail in it. In whatever
order the keys are listed, the same dependents are stored in the end, as many creations are counted,
passes are counted by their results and creations, failures and differences by kind as often, and
the passes of each instance come to the same, one by one. -/
theorem passes_independent (policy : DriftPolicy) (deadline : Instant) (waits : Waits) {s : Site}
    (hfiled : s.store.Filed) (hsorted : s.books.metrics.passes.Sorted)
    {keys keys' : List ObjectKey} (hperm : keys.Perm keys') :
    let one := s.after policy (passesFor deadline waits keys)
    let other := s.after policy (passesFor deadline waits keys')
    (∀ k, one.store.dependents.get? k = other.store.dependents.get? k) ∧
    one.store.creations = other.store.creations ∧
    (∀ text, one.books.metrics.passes.get text = other.books.metrics.passes.get text) ∧
    (∀ c, one.books.metrics.read c = other.books.metrics.read c) ∧
    ∀ key, (s.upshots policy (passesFor deadline waits keys)).filter (Upshot.isFor key) =
      (s.upshots policy (passesFor deadline waits keys')).filter (Upshot.isFor key) := by
  intro one other
  obtain ⟨hstore, hmetrics, hupshots⟩ := after_passesFor policy deadline waits s keys
  obtain ⟨hstore', hmetrics', hupshots'⟩ := after_passesFor policy deadline waits s keys'
  -- the passes of one instance are all the same, so they are in the same order
  have hsame : SameByKey (keys.map fun key => ⟨key, policy, deadline, waits⟩)
      (keys'.map fun key => ⟨key, policy, deadline, waits⟩) := by
    intro key
    have hkeys : keys.filter (· = key) = keys'.filter (· = key) := by
      rw [List.filter_eq, List.filter_eq, hperm.count_eq]
    rw [List.filter_map, List.filter_map]
    exact congrArg _ hkeys
  have hreports := reports_perm hfiled hsame
  have hevents := hreports.flatMap_right Report.events
  refine ⟨?_, ?_, ?_, ?_, ?_⟩
  · intro k
    rw [hstore, hstore']
    exact get?_afterAll_eq hfiled hsame k
  · rw [hstore, hstore', creations_afterAll, creations_afterAll,
      (hreports.flatMap_right Report.moves).countP_eq]
  · intro text
    rw [hmetrics, hmetrics', Metrics.passes_foldl_record hsorted,
      Metrics.passes_foldl_record hsorted, hevents.countP_eq]
  · intro c
    rw [hmetrics, hmetrics', Metrics.read_foldl_record, Metrics.read_foldl_record,
      hevents.countP_eq]
  · intro key
    rw [hupshots, hupshots', List.filter_map, List.filter_map]
    exact congrArg _ (reports_own_eq hfiled hsame key)

/-- A site with two instances. -/
def pair : Site := { Site.blank with store := twoInstances }

/-- A pass for one of two instances comes between two passes for the other, or behind them. Either
way the two passes ask to be run again, the second because it is outrun, and there is one creation
for each instance. -/
theorem pass_between_makes_no_difference :
    ((pair.upshots .report
        (passesFor Instant.origin Waits.zero
          [⟨"prod", "mine"⟩, ⟨"prod", "yours"⟩, ⟨"prod", "mine"⟩])).filter
      (Upshot.isFor ⟨"prod", "mine"⟩)) =
      [.passed ⟨"prod", "mine"⟩ (.ok .requeue) 0, .passed ⟨"prod", "mine"⟩ (.ok .requeue) 0] ∧
    (pair.after .report
      (passesFor Instant.origin Waits.zero
        [⟨"prod", "mine"⟩, ⟨"prod", "yours"⟩, ⟨"prod", "mine"⟩])).store.creations = 2 := by
  have hfiled : pair.store.Filed :=
    (((MemoryStore.Reachable.empty.addInstance _).addInstance _).failCreate _ _).filed
  have hperm : [⟨"prod", "mine"⟩, ⟨"prod", "yours"⟩, ⟨"prod", "mine"⟩].Perm
      [⟨"prod", "mine"⟩, ⟨"prod", "mine"⟩, (⟨"prod", "yours"⟩ : ObjectKey)] :=
    (List.Perm.swap _ _ []).cons _
  obtain ⟨-, hcreations, -, -, hown⟩ :=
    passes_independent .report Instant.origin Waits.zero hfiled .nil hperm
  rw [hown, hcreations]
  exact ⟨rfl, rfl⟩

end InstanceOperator
