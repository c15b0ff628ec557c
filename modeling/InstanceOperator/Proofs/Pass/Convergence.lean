import InstanceOperator.Proofs.Pass.Insertion
import InstanceOperator.Proofs.Store.Calm
import InstanceOperator.Proofs.Store.Filing

/-!
# How an instance converges

Passes for many instances are run one after the other on a store, any number of them and in any
order. As long as calls are served in time, each pass for one instance brings about the first of its
dependents that is still missing, until none is, and from then on changes nothing.

The kinds that are missing are the measure: a pass for the instance removes the first of them
(`Settling.own_turn`), a pass for another instance leaves them alone
(`Settling.missing_other_turn`), since instances stored under different keys have no dependents in
common.

* `Turn`, `episodes`, `afterAll`: passes one after the other.
* `before_own_episode`: what is missing before the n-th pass of an instance.
* `instance_converges`: the result.
-/

namespace InstanceOperator

/-! ## Calls in time -/

/-- Every call of the program is served by its deadline. -/
def Program.Punctual {α : Type} (waits : Waits) : Program α → Run → Prop
  | .done _, _ => True
  | .emit e rest, r => rest.Punctual waits (r.leave e)
  | .ask d c rest, r =>
    (∃ wait, waits r.made c = some wait ∧ r.now + wait ≤ r.patience d) ∧
      (rest (r.answer waits d c).1).Punctual waits (r.answer waits d c).2

/-- Calls that do not wait are served in time. -/
theorem punctual_of_no_wait {α : Type} {waits : Waits} (hwaits : ∀ n c, waits n c = some 0)
    (p : Program α) (r : Run) : p.Punctual waits r := by
  induction p generalizing r with
  | done a => trivial
  | emit e rest ih => exact ih (r.leave e)
  | ask d c rest ih => exact ⟨⟨0, hwaits _ _, by simpa using r.now_le_patience d⟩, ih _ _⟩

/-- A call that is made in time in a calm store is served. -/
theorem answer_serves {waits : Waits} {r : Run} {d : Instant} {c : Call} (hs : r.store.Calm)
    (h : ∃ wait, waits r.made c = some wait ∧ r.now + wait ≤ r.patience d) :
    r.store.Serves c (r.answer waits d c).1 (r.answer waits d c).2.store := by
  obtain ⟨wait, hwait, hle⟩ := h
  obtain ⟨result, hserves⟩ := hs.serves c
  unfold MemoryStore.Serves at hserves
  have hanswer : r.answer waits d c =
      (result, { r with
        store := (r.store.serve c).2, now := r.now + wait, made := r.made + 1 }) := by
    simp only [Run.answer, hwait, if_pos hle]
    rw [hserves]
  rw [hanswer]
  exact hserves

/-- A run in time on a calm store is a course of the program along which the store serves. -/
theorem run_along_serves {α : Type} {waits : Waits} {p : Program α} {r : Run}
    (hs : r.store.Calm) (hp : p.Punctual waits r) :
    ∃ ms, p.Course ms (p.run waits r).1 ∧
      Along MemoryStore.Serves r.store ms (p.run waits r).2.store := by
  induction p generalizing r with
  | done a => exact ⟨[], ⟨rfl, rfl⟩, rfl⟩
  | emit e rest ih =>
    obtain ⟨ms, hcourse, halong⟩ := ih (r := r.leave e) hs hp
    exact ⟨.left e :: ms, ⟨ms, rfl, hcourse⟩, halong⟩
  | ask d c rest ih =>
    obtain ⟨hfirst, hrest⟩ := hp
    have hserves := answer_serves hs hfirst
    have hcalm := hs.of_replies hserves.replies
    obtain ⟨ms, hcourse, halong⟩ := ih (r.answer waits d c).1 hcalm hrest
    exact ⟨.asked c (r.answer waits d c).1 :: ms, ⟨_, ms, rfl, hcourse⟩,
      (r.answer waits d c).2.store, hserves, halong⟩

/-! ## The calls of a pass that is done -/

/-- The record of the call that a move makes. -/
def Move.record? : Move → Option CallRecord
  | .asked c _ => some c.record
  | .left _ => none

namespace MemoryStore

/-- A store remembers the calls that it serves. -/
theorem calls_of_along {s t : MemoryStore} {ms : List Move} (h : Along Serves s ms t) :
    t.calls = s.calls ++ ms.filterMap Move.record? := by
  induction ms generalizing s with
  | nil =>
    have ht : t = s := h
    rw [ht]
    exact (List.append_nil _).symm
  | cons m ms ih =>
    cases m with
    | left e => exact ih h
    | asked c result =>
      obtain ⟨u, hserves, h⟩ := h
      -- a call that is served is remembered once, so the induction is on the moves
      have hcalls : u.calls = s.calls ++ [c.record] := by
        have htouched := s.touched_serve c
        rw [hserves] at htouched
        exact htouched.calls
      have hrecord : ((Move.asked c result) :: ms).filterMap Move.record? =
          c.record :: ms.filterMap Move.record? := rfl
      rw [ih h, hcalls, hrecord, List.append_assoc]
      rfl

end MemoryStore

/-- Ensuring dependents in order makes no creation if it finds all of them. -/
theorem series_quiet {policy : DriftPolicy} {key : ObjectKey} {wants : List Dependent}
    {ms : List Move} {result : PassEnd} (hseries : Series policy key wants ms result)
    (hdone : result = .ok .done) (kind : Kind) (key' : ObjectKey) :
    CallRecord.create kind key' ∉ ms.filterMap Move.record? := by
  induction hseries with
  | nil => simp
  | @found want rest ms result live tail ih =>
    -- only where the dependent is found does the pass go on to be done
    intro hmem
    obtain ⟨m, hm, hrecord⟩ := List.mem_filterMap.1 hmem
    rcases mem_found hm with rfl | rfl | rfl | hm
    · cases hrecord
    · cases hrecord
    · cases hrecord
    · exact ih hdone (List.mem_filterMap.2 ⟨m, hm, hrecord⟩)
  | unseen e he => cases hdone
  | created target => cases hdone
  | outrun target target' => cases hdone
  | refused target e he => cases hdone

/-- A pass that is done has created nothing. -/
theorem passCourse_quiet {policy : DriftPolicy} {key : ObjectKey} {ms : List Move}
    (hcourse : PassCourse policy key ms (.ok .done)) (kind : Kind) (key' : ObjectKey) :
    CallRecord.create kind key' ∉ ms.filterMap Move.record? := by
  cases hcourse with
  | absent target => simp [Move.record?, Call.record]
  | terminating i hi => simp [Move.record?, Call.record]
  | served i desired hi hd hs =>
    intro hmem
    rcases List.mem_cons.1 hmem with hfirst | hrest
    · cases hfirst
    · exact series_quiet hs rfl kind key' hrest

/-! ## Passes one after the other -/

/-- A pass that is to be run on a clock that shows zero: for which instance, when its calls are
given up, and how long they wait. -/
structure Turn where
  key : ObjectKey
  policy : DriftPolicy
  deadline : Instant
  waits : Waits

namespace Turn

def result (turn : Turn) (s : MemoryStore) : PassEnd :=
  ((pass turn.deadline turn.policy turn.key).run turn.waits { store := s }).1

def after (turn : Turn) (s : MemoryStore) : MemoryStore :=
  ((pass turn.deadline turn.policy turn.key).run turn.waits { store := s }).2.store

def Punctual (turn : Turn) (s : MemoryStore) : Prop :=
  (pass turn.deadline turn.policy turn.key).Punctual turn.waits { store := s }

theorem leaves (turn : Turn) (s : MemoryStore) :
    PassLeaves turn.key s (turn.result s) (turn.after s) :=
  run_pass_leaves turn.deadline turn.policy turn.key turn.waits { store := s }

end Turn

/-- A pass, and the store on which it is run. -/
structure Episode where
  turn : Turn
  before : MemoryStore

namespace Episode

def result (e : Episode) : PassEnd := e.turn.result e.before

def after (e : Episode) : MemoryStore := e.turn.after e.before

def Punctual (e : Episode) : Prop := e.turn.Punctual e.before

end Episode

/-- Passes, each run on the store behind the one before. -/
def episodes (s : MemoryStore) : List Turn → List Episode
  | [] => []
  | turn :: turns => ⟨turn, s⟩ :: episodes (turn.after s) turns

/-- The store behind all passes. -/
def afterAll (s : MemoryStore) : List Turn → MemoryStore
  | [] => s
  | turn :: turns => afterAll (turn.after s) turns

/-- The passes among others that are for one instance. -/
def ownEpisodes (s : MemoryStore) (key : ObjectKey) (turns : List Turn) : List Episode :=
  (episodes s turns).filter fun e => e.turn.key = key

/-- The first pass counts if it is for the instance. -/
theorem ownEpisodes_cons_of_eq {s : MemoryStore} {key : ObjectKey} {turn : Turn}
    (turns : List Turn) (h : turn.key = key) :
    ownEpisodes s key (turn :: turns) = ⟨turn, s⟩ :: ownEpisodes (turn.after s) key turns := by
  simp [ownEpisodes, episodes, h]

/-- A pass for another instance only changes the store on which the later ones run. -/
theorem ownEpisodes_cons_of_ne {s : MemoryStore} {key : ObjectKey} {turn : Turn}
    (turns : List Turn) (h : turn.key ≠ key) :
    ownEpisodes s key (turn :: turns) = ownEpisodes (turn.after s) key turns := by
  simp [ownEpisodes, episodes, h]

/-! ## What a pass leaves, whoever it is for -/

/-- Nothing that is stored goes away in a pass. -/
theorem PassLeaves.grows {key : ObjectKey} {s t : MemoryStore} {result : PassEnd}
    (h : PassLeaves key s result t) : s.Grows t := by
  by_cases heq : result = .ok .requeue
  · rw [heq] at h
    obtain ⟨_, _, _, _, _, _, _, hgains⟩ := h
    exact hgains.grows
  · exact (h.same_of_ne heq).grows

/-- A pass does not change which calls fail. -/
theorem PassLeaves.failure? {key : ObjectKey} {s t : MemoryStore} {result : PassEnd}
    (h : PassLeaves key s result t) (c : Call) : t.failure? c = s.failure? c := by
  by_cases heq : result = .ok .requeue
  · rw [heq] at h
    obtain ⟨_, _, _, _, _, _, _, hgains⟩ := h
    exact hgains.failures c
  · exact ((h.same_of_ne heq).failure? c).symm

/-- A dependent is desired for the instance that is stored under a key, and this is its entry. -/
def DesiredFor (s : MemoryStore) (key : ObjectKey) (k : Kind × ObjectKey) (d : Dependent) : Prop :=
  ∃ i desired kind, s.instances.get? key = some i ∧ desiredState i = .ok desired ∧
    k = (kind, (desired.get kind).key) ∧ d = desired.get kind

/-- What is desired goes by the instances, which passes leave alone. -/
theorem DesiredFor.of_instances {s t : MemoryStore} {key : ObjectKey} {k : Kind × ObjectKey}
    {d : Dependent} (h : DesiredFor t key k d) (heq : t.instances = s.instances) :
    DesiredFor s key k d := by
  obtain ⟨i, desired, kind, hi, hrest⟩ := h
  rw [heq] at hi
  exact ⟨i, desired, kind, hi, hrest⟩

/-- What a pass adds is desired for its instance. -/
theorem PassLeaves.desiredFor {key : ObjectKey} {s t : MemoryStore} {result : PassEnd}
    (h : PassLeaves key s result t) {k : Kind × ObjectKey} {d : Dependent}
    (hafter : t.dependents.get? k = some d) (hbefore : s.dependents.get? k = none) :
    DesiredFor s key k d := by
  by_cases heq : result = .ok .requeue
  · rw [heq] at h
    obtain ⟨i, desired, kind, hi, -, hd, -, hgains⟩ := h
    rw [hgains.dependents, Registry.get?_insert, kind_get_of_desiredState hd] at hafter
    by_cases hk : (kind, (desired.get kind).key) = k
    · rw [if_pos hk] at hafter
      cases hafter
      exact ⟨i, desired, kind, hi, hd, hk.symm, rfl⟩
    · rw [if_neg hk, hbefore] at hafter
      cases hafter
  · rw [← (h.same_of_ne heq).dependents, hbefore] at hafter
    cases hafter

/-- Passes leave everything that was stored as it was. -/
theorem grows_afterAll (s : MemoryStore) (turns : List Turn) : s.Grows (afterAll s turns) := by
  induction turns generalizing s with
  | nil => exact .refl s
  | cons turn turns ih => exact (turn.leaves s).grows.trans (ih (turn.after s))

/-- What passes add is desired for the instances passed over. -/
theorem desiredFor_afterAll {s : MemoryStore} {turns : List Turn} {k : Kind × ObjectKey}
    {d : Dependent} (hafter : (afterAll s turns).dependents.get? k = some d)
    (hbefore : s.dependents.get? k = none) : ∃ turn ∈ turns, DesiredFor s turn.key k d := by
  induction turns generalizing s with
  | nil =>
    have heq : s.dependents.get? k = some d := hafter
    rw [hbefore] at heq
    cases heq
  | cons turn turns ih =>
    have hleaves := turn.leaves s
    cases hmid : (turn.after s).dependents.get? k with
    | none =>
      obtain ⟨turn', hmem, hdesired⟩ := ih hafter hmid
      exact ⟨turn', List.mem_cons_of_mem _ hmem, hdesired.of_instances hleaves.instances⟩
    | some d' =>
      -- what stands under the key behind the first pass stands there to the end
      have hkept := (grows_afterAll (turn.after s) turns).dependents k d' hmid
      have hlast : (afterAll (turn.after s) turns).dependents.get? k = some d := hafter
      rw [hkept] at hlast
      cases hlast
      exact ⟨turn, List.mem_cons_self, hleaves.desiredFor hmid hbefore⟩

/-! ## The measure -/

/-- Without its first member, what passes a test is what passes the test and is another. -/
theorem filter_ne_head {α : Type} [DecidableEq α] {p q : α → Bool} {as : List α} {a : α}
    {rest : List α} (hnodup : as.Nodup) (h : as.filter p = a :: rest)
    (hq : ∀ b, q b = (p b && b ≠ a)) : as.filter q = rest := by
  have hsplit : as.filter q = (as.filter p).filter (· ≠ a) := by
    rw [List.filter_filter]
    refine List.filter_congr ?_
    intro b _
    rw [hq, Bool.and_comm]
  have hnotin : a ∉ rest := by
    have hnodup' := hnodup.sublist (List.filter_sublist (p := p))
    rw [h] at hnodup'
    exact (List.nodup_cons.1 hnodup').1
  rw [hsplit, h, List.filter_cons_of_neg (by simp)]
  refine List.filter_eq_self.2 ?_
  intro b hb
  have hne : b ≠ a := by
    rintro rfl
    exact hnotin hb
  simpa using hne

namespace MemoryStore

variable {s t : MemoryStore} {desired : PerKind Dependent}

/-- A desired dependent that comes into being is no longer missing. -/
theorem Gains.lacks_own (hkind : ∀ kind, (desired.get kind).kind = kind) {kind : Kind}
    (h : s.Gains (desired.get kind) t) (other : Kind) :
    t.lacks desired other = (s.lacks desired other && other ≠ kind) := by
  rw [MemoryStore.lacks, MemoryStore.lacks, h.dependents, Registry.get?_insert, hkind]
  by_cases heq : kind = other
  · rw [heq, if_pos rfl]
    simp
  · have hne : ¬ (kind, (desired.get kind).key) = (other, (desired.get other).key) := by
      intro h'
      exact heq (congrArg Prod.fst h')
    rw [if_neg hne]
    simp [Ne.symm heq]

/-- What is missing behind the creation of the first missing dependent. -/
theorem Gains.missing_own (hkind : ∀ kind, (desired.get kind).kind = kind) {kind : Kind}
    {rest : List Kind} (h : s.Gains (desired.get kind) t)
    (hmissing : s.missing desired = kind :: rest) : t.missing desired = rest := by
  exact filter_ne_head Kind.nodup_ordered hmissing (h.lacks_own hkind)

/-- A dependent under another key makes no difference to what is missing. -/
theorem Gains.missing_other {d : Dependent} (h : s.Gains d t)
    (hne : ∀ kind, (d.kind, d.key) ≠ (kind, (desired.get kind).key)) :
    t.missing desired = s.missing desired := by
  unfold MemoryStore.missing
  refine List.filter_congr ?_
  intro kind _
  rw [MemoryStore.lacks, MemoryStore.lacks, h.dependents, Registry.get?_insert, if_neg (hne kind)]

/-- What is missing goes by the contents of the store, not by the calls it remembers. -/
theorem Same.missing (h : s.Same t) (desired : PerKind Dependent) :
    t.missing desired = s.missing desired := by
  unfold MemoryStore.missing
  rw [h.lacks]

/-- Nothing is missing if every dependent is there. -/
theorem missing_eq_nil
    (h : ∀ kind, (s.dependents.get? (kind, (desired.get kind).key)).isSome) :
    s.missing desired = [] := by
  rw [List.eq_nil_iff_forall_not_mem]
  intro kind hmissing
  have hthere := h kind
  rw [mem_missing_iff.1 hmissing] at hthere
  cases hthere

end MemoryStore

/-! ## One instance among others -/

/-- An instance on the way to having all its dependents: it is stored, it has a desired state and is
not on its way out, and only races stand in the way of calls. -/
structure Settling (s : MemoryStore) (key : ObjectKey) (i : Instance)
    (desired : PerKind Dependent) : Prop where
  calm : s.Calm
  filed : s.Filed
  stored : s.instances.get? key = some i
  live : i.metadata.deletionTimestamp = none
  accepted : desiredState i = .ok desired

namespace Settling

variable {s : MemoryStore} {key : ObjectKey} {i : Instance} {desired : PerKind Dependent}
  {turn : Turn}

/-- Whatever pass is run, the instance stays on its way. -/
theorem after_turn (h : Settling s key i desired) (turn : Turn) :
    Settling (turn.after s) key i desired := by
  have hleaves := turn.leaves s
  constructor
  · intro c f hf
    rw [hleaves.failure? c] at hf
    exact h.calm c f hf
  · exact h.filed.of_instances hleaves.instances
  · rw [hleaves.instances]
    exact h.stored
  · exact h.live
  · exact h.accepted

/-- A pass for another instance leaves what is missing alone. -/
theorem missing_other_turn (h : Settling s key i desired) (hne : turn.key ≠ key) :
    (turn.after s).missing desired = s.missing desired := by
  have hleaves := turn.leaves s
  by_cases heq : turn.result s = .ok .requeue
  · rw [heq] at hleaves
    obtain ⟨j, desired', kind, hj, -, hd', -, hgains⟩ := hleaves
    -- the object that comes into being is another's, so it stands under none of our keys
    refine hgains.missing_other ?_
    intro kind' hk
    rw [kind_get_of_desiredState hd'] at hk
    obtain ⟨rfl, hkey⟩ := Prod.mk.inj hk
    exact hne (h.filed.key_inj hj hd' h.stored h.accepted hkey)
  · exact (hleaves.same_of_ne heq).missing desired

/-- A pass for the instance that is done has found all of its dependents. -/
theorem missing_of_done (h : Settling s key i desired) (hkey : turn.key = key)
    (hpunctual : turn.Punctual s) (hne : turn.result s ≠ .ok .requeue) :
    turn.result s = .ok .done ∧ s.missing desired = [] ∧
      ∃ calls, (turn.after s).calls = s.calls ++ calls ∧
        ∀ kind key', CallRecord.create kind key' ∉ calls := by
  have hsame : s.Same (turn.after s) := (turn.leaves s).same_of_ne hne
  -- all calls are served, so what the moves of the pass have told holds behind it
  obtain ⟨ms, hcourse, halong⟩ := run_along_serves (r := { store := s }) h.calm hpunctual
  have hpass : PassCourse turn.policy key ms (turn.result s) := by
    rw [← hkey]
    exact passCourse_of_course hcourse
  obtain ⟨-, hholds⟩ := h.calm.holds_of_along halong
  have hstored : (turn.after s).instances.get? key = some i := by
    rw [← hsame.instances]
    exact h.stored
  have haccepted : ∀ j, (turn.after s).instances.get? key = some j →
      ∃ desired, desiredState j = .ok desired := by
    intro j hj
    rw [hstored] at hj
    cases hj
    exact ⟨desired, h.accepted⟩
  rcases passCourse_end hpass hholds haccepted with hrequeue | ⟨hdone, hthere⟩
  · exact absurd hrequeue hne
  · refine ⟨hdone, ?_, ms.filterMap Move.record?, MemoryStore.calls_of_along halong, ?_⟩
    · rw [← hsame.missing desired]
      exact MemoryStore.missing_eq_nil (hthere i desired hstored h.live h.accepted)
    · rw [hdone] at hpass
      exact passCourse_quiet hpass

/-- What a pass for the instance does: the first missing dependent comes into being, or none is
missing, and then nothing happens. -/
theorem own_turn (h : Settling s key i desired) (hkey : turn.key = key)
    (hpunctual : turn.Punctual s) :
    (∃ kind rest, s.missing desired = kind :: rest ∧ turn.result s = .ok .requeue ∧
      s.Gains (desired.get kind) (turn.after s) ∧ (turn.after s).missing desired = rest) ∨
    (s.missing desired = [] ∧ turn.result s = .ok .done ∧ s.Same (turn.after s) ∧
      ∃ calls, (turn.after s).calls = s.calls ++ calls ∧
        ∀ kind key', CallRecord.create kind key' ∉ calls) := by
  have hleaves := turn.leaves s
  by_cases heq : turn.result s = .ok .requeue
  · left
    rw [heq] at hleaves
    obtain ⟨j, desired', kind, hj, -, hd', hhead, hgains⟩ := hleaves
    -- the instance that the pass has fetched is this one
    rw [hkey, h.stored] at hj
    cases hj
    rw [h.accepted] at hd'
    cases hd'
    obtain ⟨rest, hmissing⟩ := List.head?_eq_some_iff.1 hhead
    exact ⟨kind, rest, hmissing, heq, hgains,
      hgains.missing_own (kind_get_of_desiredState h.accepted) hmissing⟩
  · right
    obtain ⟨hdone, hmissing, hquiet⟩ := h.missing_of_done hkey hpunctual heq
    exact ⟨hmissing, hdone, hleaves.same_of_ne heq, hquiet⟩

/-- Every pass for the instance removes the first of what is missing. -/
theorem missing_own_turn (h : Settling s key i desired) (hkey : turn.key = key)
    (hpunctual : turn.Punctual s) :
    (turn.after s).missing desired = (s.missing desired).drop 1 := by
  rcases h.own_turn hkey hpunctual with ⟨kind, rest, hmissing, -, -, hrest⟩ |
    ⟨hmissing, -, hsame, -⟩
  · rw [hmissing, hrest]
    rfl
  · rw [hsame.missing desired, hmissing]
    rfl

/-- Before the n-th pass for the instance, the first n of what was missing are there. -/
theorem before_own_episode (h : Settling s key i desired) {turns : List Turn}
    (hpunctual : ∀ e ∈ episodes s turns, e.turn.key = key → e.Punctual) {n : Nat} {e : Episode}
    (hn : (ownEpisodes s key turns)[n]? = some e) :
    Settling e.before key i desired ∧ e.before.missing desired = (s.missing desired).drop n ∧
      e.turn.key = key ∧ e.Punctual := by
  -- on the passes, for every store: a pass for the instance takes one off n and one off the list
  induction turns generalizing s n with
  | nil => cases hn
  | cons turn turns ih =>
    have hlater : ∀ e ∈ episodes (turn.after s) turns, e.turn.key = key → e.Punctual :=
      fun e he => hpunctual e (List.mem_cons_of_mem _ he)
    by_cases hkey : turn.key = key
    · have hfirst : turn.Punctual s := hpunctual ⟨turn, s⟩ List.mem_cons_self hkey
      rw [ownEpisodes_cons_of_eq turns hkey] at hn
      cases n with
      | zero =>
        cases hn
        exact ⟨h, rfl, hkey, hfirst⟩
      | succ n =>
        obtain ⟨hsettling, hmissing, hrest⟩ := ih (h.after_turn turn) hlater hn
        refine ⟨hsettling, ?_, hrest⟩
        rw [hmissing, h.missing_own_turn hkey hfirst, List.drop_drop, Nat.add_comm]
    · rw [ownEpisodes_cons_of_ne turns hkey] at hn
      obtain ⟨hsettling, hmissing, hrest⟩ := ih (h.after_turn turn) hlater hn
      refine ⟨hsettling, ?_, hrest⟩
      rw [hmissing, h.missing_other_turn hkey]

/-- What is missing behind all passes: each pass for the instance has removed one. -/
theorem missing_afterAll (h : Settling s key i desired) {turns : List Turn}
    (hpunctual : ∀ e ∈ episodes s turns, e.turn.key = key → e.Punctual) :
    (afterAll s turns).missing desired =
      (s.missing desired).drop (ownEpisodes s key turns).length := by
  induction turns generalizing s with
  | nil => rfl
  | cons turn turns ih =>
    have hlater : ∀ e ∈ episodes (turn.after s) turns, e.turn.key = key → e.Punctual :=
      fun e he => hpunctual e (List.mem_cons_of_mem _ he)
    -- the instance is still on its way behind the first pass, so the rest removes its share
    rw [afterAll, ih (h.after_turn turn) hlater]
    by_cases hkey : turn.key = key
    · have hfirst : turn.Punctual s := hpunctual ⟨turn, s⟩ List.mem_cons_self hkey
      rw [ownEpisodes_cons_of_eq turns hkey, h.missing_own_turn hkey hfirst, List.drop_drop,
        List.length_cons, Nat.add_comm]
    · rw [ownEpisodes_cons_of_ne turns hkey, h.missing_other_turn hkey]

/-- An entry under the key of one of the instance's dependents that is desired for some instance is
desired for this one. -/
theorem eq_of_desiredFor (h : Settling s key i desired) {key' : ObjectKey} {kind : Kind}
    {d : Dependent} (hfor : DesiredFor s key' (kind, (desired.get kind).key) d) :
    key' = key ∧ d = desired.get kind := by
  obtain ⟨j, desired', kind', hj, hd', hk, rfl⟩ := hfor
  obtain ⟨rfl, hkey⟩ := Prod.mk.inj hk
  -- the key of a dependent tells whose it is, and what is desired for an instance is determined
  have heq : key = key' := h.filed.key_inj h.stored h.accepted hj hd' hkey
  subst heq
  rw [h.stored] at hj
  cases hj
  rw [h.accepted] at hd'
  cases hd'
  exact ⟨rfl, rfl⟩

/-- What the passes for the instance have removed from what is missing is stored as it is
desired. -/
theorem stored_afterAll (h : Settling s key i desired) {turns : List Turn}
    (hpunctual : ∀ e ∈ episodes s turns, e.turn.key = key → e.Punctual) {kind : Kind}
    (hkind : kind ∈ (s.missing desired).take (ownEpisodes s key turns).length) :
    (afterAll s turns).dependents.get? (kind, (desired.get kind).key) =
      some (desired.get kind) := by
  have hbefore : s.dependents.get? (kind, (desired.get kind).key) = none :=
    MemoryStore.mem_missing_iff.1 (List.mem_of_mem_take hkind)
  -- the kind is not among those that are left, since no kind is missing twice
  have hnotmissing : kind ∉ (afterAll s turns).missing desired := by
    rw [h.missing_afterAll hpunctual]
    intro hleft
    have hnodup : (s.missing desired).Nodup := Kind.nodup_ordered.sublist List.filter_sublist
    rw [← List.take_append_drop (ownEpisodes s key turns).length (s.missing desired)] at hnodup
    exact (List.nodup_append.1 hnodup).2.2 kind hkind kind hleft rfl
  cases hafter : (afterAll s turns).dependents.get? (kind, (desired.get kind).key) with
  | none => exact absurd (MemoryStore.mem_missing_iff.2 hafter) hnotmissing
  | some d =>
    obtain ⟨turn, -, hfor⟩ := desiredFor_afterAll hafter hbefore
    rw [(h.eq_of_desiredFor hfor).2]

end Settling

/-! ## The result -/

/-- **Convergence.** An instance is stored that has a desired state and is not on its way out, and
nothing but races stands in the way of calls. Passes for it and for other instances are run one
after the other, those for it without a call that times out. The first of them, as many as it has
dependents missing, each create the first one that is still missing and ask to be run again; all
others are done, change nothing and make no creation. In the end everything that was stored is
stored unchanged, what the passes for the instance were to create is stored as it is desired, and
whatever else has been added is desired for another instance passed over. -/
theorem instance_converges {s : MemoryStore} {key : ObjectKey} {i : Instance}
    {desired : PerKind Dependent} (hfiled : s.Filed) (hcalm : s.Calm)
    (hstored : s.instances.get? key = some i) (hlive : i.metadata.deletionTimestamp = none)
    (haccepted : desiredState i = .ok desired) (turns : List Turn)
    (hpunctual : ∀ e ∈ episodes s turns, e.turn.key = key → e.Punctual) :
    let own := ownEpisodes s key turns
    let t := afterAll s turns
    (∀ n e, own[n]? = some e →
      (∀ kind, (s.missing desired)[n]? = some kind →
        e.result = .ok .requeue ∧ (e.before.missing desired).head? = some kind ∧
        e.after.dependents =
          e.before.dependents.insert (kind, (desired.get kind).key) (desired.get kind)) ∧
      ((s.missing desired).length ≤ n →
        e.result = .ok .done ∧ e.after.dependents = e.before.dependents ∧
        ∃ calls, e.after.calls = e.before.calls ++ calls ∧
          ∀ kind key', CallRecord.create kind key' ∉ calls)) ∧
    t.instances = s.instances ∧
    (∀ k d, s.dependents.get? k = some d → t.dependents.get? k = some d) ∧
    (∀ kind ∈ (s.missing desired).take own.length,
      t.dependents.get? (kind, (desired.get kind).key) = some (desired.get kind)) ∧
    (∀ k d, t.dependents.get? k = some d → s.dependents.get? k = none →
      (∃ kind ∈ s.missing desired, k = (kind, (desired.get kind).key) ∧ d = desired.get kind) ∨
      (∃ turn ∈ turns, turn.key ≠ key ∧ DesiredFor s turn.key k d)) := by
  intro own t
  have h : Settling s key i desired := ⟨hcalm, hfiled, hstored, hlive, haccepted⟩
  have hgrows : s.Grows t := grows_afterAll s turns
  refine ⟨?_, hgrows.instances, hgrows.dependents,
    fun kind hk => h.stored_afterAll hpunctual hk, ?_⟩
  · -- the n-th pass for the instance: what is missing before it are the kinds from the n-th on
    intro n e hn
    obtain ⟨hsettling, hmissing, hkey, he⟩ := h.before_own_episode hpunctual hn
    have hhead : (e.before.missing desired).head? = (s.missing desired)[n]? := by
      rw [hmissing, List.head?_drop]
    rcases hsettling.own_turn hkey he with ⟨kind, rest, hfirst, hresult, hgains, -⟩ |
      ⟨hnone, hresult, hsame, hquiet⟩
    · -- something is missing, so n is still within the list
      rw [hfirst, List.head?_cons] at hhead
      constructor
      · intro kind' hk
        rw [hk] at hhead
        cases hhead
        have hdependents := hgains.dependents
        rw [kind_get_of_desiredState haccepted] at hdependents
        exact ⟨hresult, by rw [hfirst]; rfl, hdependents⟩
      · intro hle
        rw [List.getElem?_eq_none hle] at hhead
        cases hhead
    · -- nothing is missing any more, so the list is used up
      rw [hnone, List.head?_nil] at hhead
      constructor
      · intro kind hk
        rw [hk] at hhead
        cases hhead
      · intro _
        exact ⟨hresult, hsame.dependents.symm, hquiet⟩
  · -- what has been added is desired for some turn, of this instance or of another
    intro k d hafter hbefore
    obtain ⟨turn, hturn, hfor⟩ := desiredFor_afterAll hafter hbefore
    by_cases hkey : turn.key = key
    · left
      obtain ⟨j, desired', kind, hj, hd', rfl, rfl⟩ := hfor
      rw [hkey, hstored] at hj
      cases hj
      rw [haccepted] at hd'
      cases hd'
      exact ⟨kind, MemoryStore.mem_missing_iff.2 hbefore, rfl, rfl⟩
    · exact .inr ⟨turn, hturn, hkey, hfor⟩

/-- Two instances without dependents, in a store where services are always raced for. -/
def twoInstances : MemoryStore :=
  MemoryStore.failCreate
    ((MemoryStore.addInstance {} (Identity.mk "mine" "prod" "u-1").bare).addInstance
      (Identity.mk "yours" "prod" "u-2").bare)
    .service .alreadyExists

/-- Passes for the two instances by turns, three for the first of them. -/
def byTurns : List Turn :=
  ["mine", "yours", "mine", "yours", "mine"].map fun name =>
    ⟨⟨"prod", name⟩, .report, Instant.origin, fun _ _ => some 0⟩

/-- Nothing is there at first; three passes bring about the three dependents of an instance, though
another's come in between and the service is raced for. -/
theorem byTurns_converges :
    twoInstances.missing (Identity.mk "mine" "prod" "u-1").dependents = Kind.ordered ∧
      ∀ kind, (afterAll twoInstances byTurns).dependents.get?
          (kind, ((Identity.mk "mine" "prod" "u-1").dependent kind).key) =
        some ((Identity.mk "mine" "prod" "u-1").dependent kind) := by
  have hmissing :
      twoInstances.missing (Identity.mk "mine" "prod" "u-1").dependents = Kind.ordered := rfl
  refine ⟨hmissing, ?_⟩
  have hfiled : twoInstances.Filed :=
    (((MemoryStore.Reachable.empty.addInstance _).addInstance _).failCreate _ _).filed
  -- the one injected failure is that of a race
  have hcalm : twoInstances.Calm := by
    intro c f hf
    cases c with
    | getInstance key => cases hf
    | get kind key => cases kind <;> cases hf
    | create d =>
      cases hd : d.kind <;> simp only [MemoryStore.failure?, hd] at hf <;> cases hf
      exact ⟨rfl, d, rfl⟩
  have hpunctual : ∀ e ∈ episodes twoInstances byTurns,
      e.turn.key = ⟨"prod", "mine"⟩ → e.Punctual := by
    intro e he _
    have hwaits : ∀ n c, e.turn.waits n c = some 0 := by
      simp only [byTurns, List.map, episodes, List.mem_cons, List.not_mem_nil, or_false] at he
      rcases he with rfl | rfl | rfl | rfl | rfl <;> exact fun _ _ => rfl
    exact punctual_of_no_wait hwaits _ _
  obtain ⟨-, -, -, hstored, -⟩ := instance_converges hfiled hcalm rfl rfl
    (Identity.desiredState_bare (by decide) (by decide) (by decide) (by decide)) byTurns hpunctual
  intro kind
  have hall : kind ∈ (twoInstances.missing (Identity.mk "mine" "prod" "u-1").dependents).take
      (ownEpisodes twoInstances ⟨"prod", "mine"⟩ byTurns).length := by
    have hthree : (ownEpisodes twoInstances ⟨"prod", "mine"⟩ byTurns).length = 3 := rfl
    rw [hmissing, hthree]
    exact Kind.mem_ordered kind
  -- the kinds one by one, for the keys of the dependents to be evaluated
  cases kind with
  | deployment => exact hstored .deployment hall
  | service => exact hstored .service hall
  | ingress => exact hstored .ingress hall

end InstanceOperator
