import InstanceOperator.Dispatch.Handler
import InstanceOperator.Proofs.Store.Calm

/-!
# Passes in flight at the same time

Any number of passes work on one store and keep one set of books; each of their calls and traces is
a step, and steps of different passes come in any order. Looking a dependent up and creating it are
two calls, so that another pass can come in between.

Nothing is invented for the order of the steps: the moves of all passes together are one sequence
along which the store serves (`interleaves_serves`), and the moves of each pass are a course of it
(`Underway.Sound`). What holds of the store follows from the first, what holds of a pass from the
second, and what a move has told goes on to hold while the store only grows.

* `Concourse.Step`, `Concourse.Interleaves`: one step and a run.
* `Concourse.Kept`: what every step keeps.
* `interleaved_passes_agree`: the result, for every interleaving.
-/

namespace InstanceOperator

/-! ## The system -/

/-- Passes that work on one store and keep one set of books. -/
structure Concourse where
  store : MemoryStore
  books : Books
  passes : List Underway

namespace Concourse

/-- One of the passes makes a move: its call is served, or it leaves a trace. -/
inductive Step : Concourse → Move → Concourse → Prop where
  | call {s t : MemoryStore} {b : Books} {before after : List Underway} {p : Underway}
      {deadline : Instant} {c : Call} {rest : c.Result → Program PassEnd} {result : c.Result}
      (hp : p.rest = .ask deadline c rest) (hserves : s.Serves c result t) :
      Step ⟨s, b, before ++ p :: after⟩ (.asked c result)
        ⟨t, b, before ++ p.advance (.asked c result) (rest result) :: after⟩
  | leave {s : MemoryStore} {b : Books} {before after : List Underway} {p : Underway} {e : Effect}
      {rest : Program PassEnd} (hp : p.rest = .emit e rest) :
      Step ⟨s, b, before ++ p :: after⟩ (.left e)
        ⟨s, b.enter e, before ++ p.advance (.left e) rest :: after⟩

/-- The moves of a run, in the order in which they are made. -/
inductive Interleaves : Concourse → List Move → Concourse → Prop where
  | nil (c : Concourse) : Interleaves c [] c
  | cons {c d e : Concourse} {m : Move} {ms : List Move} (first : Step c m d)
      (others : Interleaves d ms e) : Interleaves c (m :: ms) e

theorem Interleaves.append {c d e : Concourse} {ms ms' : List Move} (h : Interleaves c ms d)
    (h' : Interleaves d ms' e) : Interleaves c (ms ++ ms') e := by
  induction h with
  | nil c => exact h'
  | cons first others ih => exact .cons first (ih h')

/-- No pass is about to leave a trace. -/
def Settled (c : Concourse) : Prop := ∀ p ∈ c.passes, ∀ e rest, p.rest ≠ .emit e rest

end Concourse

/-! ## The store -/

/-- The moves of a run are moves along which the store serves. -/
theorem Concourse.interleaves_serves {c d : Concourse} {ms : List Move} (h : c.Interleaves ms d) :
    Along MemoryStore.Serves c.store ms d.store := by
  induction h with
  | nil c => exact rfl
  | cons first others ih =>
    cases first with
    | call hp hserves => exact ⟨_, hserves, ih⟩
    | leave hp => exact ih

/-- Whether a move creates an object under a kind and key. -/
def Move.creates (k : Kind × ObjectKey) (m : Move) : Bool :=
  m.creation?.any fun d => (d.kind, d.key) = k

namespace MemoryStore

/-- In a store without failures a move that creates nothing leaves the contents as they are. -/
theorem FailureFree.same_of_serves {s t : MemoryStore} (hs : s.FailureFree) {c : Call}
    {result : c.Result} (h : s.Serves c result t) (hnone : (Move.asked c result).creation? = none) :
    s.Same t := by
  have hreply : s.Replies c result t := h.replies
  cases c with
  | getInstance key => exact hreply.same (by simp)
  | get kind key => exact hreply.same (by simp)
  | create d =>
    cases result with
    | ok u => cases hnone
    | error e =>
      have he : e.isAlreadyExists = true := hs.calm.isAlreadyExists_of_serves h
      obtain ⟨target, rfl⟩ := StoreError.isAlreadyExists_iff.1 he
      rcases hreply.outrun with ⟨-, -, hsame⟩ | ⟨hfailure, -⟩
      · exact hsame
      · -- nobody has made the store act as if someone else had come first
        have hfree : s.createFailures.get d.kind = none := hs (.create d)
        rw [hfree] at hfailure
        cases hfailure

/-- In a store without failures a move that creates an object adds it, and is counted. -/
theorem FailureFree.gains_of_serves {s t : MemoryStore} (hs : s.FailureFree) {c : Call}
    {result : c.Result} {d : Dependent} (h : s.Serves c result t)
    (hsome : (Move.asked c result).creation? = some d) :
    s.Gains d t ∧ t.creations = s.creations + 1 := by
  have hreply : s.Replies c result t := h.replies
  cases c with
  | getInstance key => cases hsome
  | get kind key => cases hsome
  | create d' =>
    cases result with
    | error e => cases hsome
    | ok u =>
      cases hsome
      have hgains : s.Gains d t := hreply.gains_of_ok
      refine ⟨hgains, ?_⟩
      -- what is gained is counted, unless the store acts as if someone else had come first
      rcases hgains.creations with ⟨-, hcount⟩ | ⟨hfailure, -⟩
      · exact hcount
      · have hfree : s.createFailures.get d.kind = none := hs (.create d)
        rw [hfree] at hfailure
        cases hfailure

end MemoryStore

/-- What served moves add up to: the store grows by the objects that they create, each under a key
of its own. -/
structure Tallied (s : MemoryStore) (ms : List Move) (t : MemoryStore) : Prop where
  grows : s.Grows t
  size : t.dependents.size = s.dependents.size + ms.countP (·.creation?.isSome)
  creations : t.creations = s.creations + ms.countP (·.creation?.isSome)
  held : ∀ k, (t.dependents.contains k).toNat =
    (s.dependents.contains k).toNat + ms.countP (Move.creates k)

theorem Tallied.nil (s : MemoryStore) : Tallied s [] s :=
  ⟨.refl s, rfl, rfl, fun _ => rfl⟩

/-- Tallies of successive parts of a run add up. -/
theorem Tallied.cons {s t u : MemoryStore} {m : Move} {ms : List Move} (h₁ : Tallied s [m] t)
    (h₂ : Tallied t ms u) : Tallied s (m :: ms) u := by
  constructor
  · exact h₁.grows.trans h₂.grows
  · rw [h₂.size, h₁.size, Nat.add_assoc, ← List.countP_append]
    rfl
  · rw [h₂.creations, h₁.creations, Nat.add_assoc, ← List.countP_append]
    rfl
  · intro k
    rw [h₂.held, h₁.held, Nat.add_assoc, ← List.countP_append]
    rfl

/-- A move that creates nothing adds nothing. -/
theorem tallied_of_same {s t : MemoryStore} {m : Move} (h : s.Same t)
    (hnone : m.creation? = none) : Tallied s [m] t := by
  constructor
  · exact h.grows
  · simp [hnone, h.dependents]
  · simp [hnone, h.creations]
  · intro k
    simp [Move.creates, hnone, h.dependents]

/-- A move that creates an object adds it, and nothing else. -/
theorem tallied_of_gains {s t : MemoryStore} {m : Move} {d : Dependent} (h : s.Gains d t)
    (hcount : t.creations = s.creations + 1) (hsome : m.creation? = some d) :
    Tallied s [m] t := by
  constructor
  · exact h.grows
  · rw [h.dependents, Registry.size_insert _ _ _ h.free]
    simp [hsome]
  · simp [hsome, hcount]
  · intro k
    rw [Registry.contains, Registry.contains, h.dependents, Registry.get?_insert]
    by_cases hk : (d.kind, d.key) = k
    · -- the key was free before the move and is taken behind it
      rw [if_pos hk, ← hk, h.free]
      simp [Move.creates, hsome]
    · rw [if_neg hk]
      simp [Move.creates, hsome, hk]

/-- A call that is served is tallied by what it did to the store. -/
theorem tallied_of_serves {s t : MemoryStore} (hs : s.FailureFree) {c : Call} {result : c.Result}
    (h : s.Serves c result t) : Tallied s [.asked c result] t := by
  cases hm : (Move.asked c result).creation? with
  | none => exact tallied_of_same (hs.same_of_serves h hm) hm
  | some d =>
    obtain ⟨hgains, hcount⟩ := hs.gains_of_serves h hm
    exact tallied_of_gains hgains hcount hm

/-- Moves along which a store without failures serves add up. -/
theorem tallied_of_along {s t : MemoryStore} (hs : s.FailureFree) {ms : List Move}
    (h : Along MemoryStore.Serves s ms t) : Tallied s ms t := by
  induction ms generalizing s with
  | nil =>
    have ht : t = s := h
    rw [ht]
    exact .nil s
  | cons m ms ih =>
    cases m with
    | left e => exact .cons (tallied_of_same (.refl s) rfl) (ih hs h)
    | asked c result =>
      -- calls add no failures, so the rest of the moves begins on a store without any
      obtain ⟨u, hserves, h⟩ := h
      have hu : u.FailureFree := hs.of_replies hserves.replies
      exact .cons (tallied_of_serves hs hserves) (ih hu h)

/-- Nothing is created twice. -/
theorem Tallied.creates_le_one {s t : MemoryStore} {ms : List Move} (h : Tallied s ms t)
    (k : Kind × ObjectKey) : ms.countP (Move.creates k) ≤ 1 := by
  have hheld := h.held k
  -- a key holds one object, and each creation under it has added one
  have hle : (t.dependents.contains k).toNat ≤ 1 := Bool.toNat_le _
  omega

/-! ## The counters -/

/-- The dependents counted as created, of all kinds together. -/
def Metrics.createdTotal (m : Metrics) : Nat :=
  m.created.deployment + m.created.service + m.created.ingress

/-- Whether a trace counts a created dependent. -/
def Effect.isCreated : Effect → Bool
  | .count (.created _) => true
  | _ => false

/-- Whether a move counts a created dependent. -/
def Move.counts : Move → Bool
  | .left e => e.isCreated
  | .asked _ _ => false

theorem Metrics.createdTotal_record (m : Metrics) (k : Kind) :
    (m.record (.created k)).createdTotal = m.createdTotal + 1 := by
  cases k with
  | deployment =>
    show m.created.deployment + 1 + m.created.service + m.created.ingress = m.createdTotal + 1
    unfold createdTotal
    omega
  | service =>
    show m.created.deployment + (m.created.service + 1) + m.created.ingress = m.createdTotal + 1
    unfold createdTotal
    omega
  | ingress => rfl

/-- A trace adds one to the total exactly if it counts a created dependent. -/
theorem Books.createdTotal_enter (b : Books) (e : Effect) :
    (b.enter e).metrics.createdTotal = b.metrics.createdTotal + e.isCreated.toNat := by
  cases e with
  | log n => rfl
  | count event =>
    cases event with
    | created k => exact b.metrics.createdTotal_record k
    | failed k phase => cases phase <;> rfl
    | passEnded result elapsed => rfl
    | drifted k => rfl
    | requeued => rfl
    | ready => rfl

/-- A count over a list is the sum of what each element adds. -/
theorem countP_cons_toNat {α : Type} (q : α → Bool) (a : α) (as : List α) :
    (a :: as).countP q = as.countP q + (q a).toNat := by
  rw [List.countP_cons]
  cases q a <;> rfl

/-- The books count what the moves of a run count. -/
theorem Concourse.interleaves_counts {c d : Concourse} {ms : List Move} (h : c.Interleaves ms d) :
    d.books.metrics.createdTotal = c.books.metrics.createdTotal + ms.countP Move.counts := by
  induction h with
  | nil c => rfl
  | @cons c d e m ms first others ih =>
    rw [ih, countP_cons_toNat]
    cases first with
    | call hp hserves => rfl
    | @leave s b before after p eff rest hp =>
      have henter := b.createdTotal_enter eff
      show (b.enter eff).metrics.createdTotal + ms.countP Move.counts =
        b.metrics.createdTotal + (ms.countP Move.counts + eff.isCreated.toNat)
      omega

/-! ## Creating and counting

Between creating a dependent and counting it a pass makes no call. The number of counts that a
program owes is thus known from the traces that it leaves before its next call. -/

namespace Program

variable {α β : Type}

/-- How many created dependents the program counts before its next call. -/
def owes : Program α → Nat
  | .emit e rest => e.isCreated.toNat + rest.owes
  | .done _ => 0
  | .ask _ _ _ => 0

/-- The program counts a created dependent before it makes another call, and nothing else. -/
def Honest : Program α → Prop
  | .done _ => True
  | .emit _ rest => rest.Honest
  | .ask _ c rest => ∀ result,
      (rest result).owes = (Move.asked c result).creation?.isSome.toNat ∧ (rest result).Honest

/-- What comes behind a program adds nothing to what it owes, if it owes nothing itself. -/
theorem owes_bind (p : Program α) (f : α → Program β) (hf : ∀ a, (f a).owes = 0) :
    (p.bind f).owes = p.owes := by
  induction p with
  | done a => exact hf a
  | emit e rest ih => simp only [bind, owes, ih]
  -- what comes before the next call is all in the first program
  | ask d c rest ih => rfl

/-- Honest programs one after the other are honest, if the second owes nothing at first. -/
theorem Honest.bind {p : Program α} {f : α → Program β} (hp : p.Honest)
    (hf : ∀ a, (f a).owes = 0 ∧ (f a).Honest) : (p.bind f).Honest := by
  induction p with
  | done a => exact (hf a).2
  | emit e rest ih => exact ih hp
  | ask d c rest ih =>
    intro result
    obtain ⟨howes, hrest⟩ := hp result
    refine ⟨?_, ih result hrest⟩
    rw [owes_bind _ _ fun a => (hf a).1, howes]

end Program

/-- A created dependent is counted before anything else is asked of the store. -/
theorem honest_ensure (deadline : Instant) (policy : DriftPolicy) (want : Dependent) :
    (ensure deadline policy want).Honest := by
  rintro (e | live)
  · cases he : e.isNotFound with
    | false =>
      rw [settleLookup, if_neg (by simp [he])]
      exact ⟨rfl, trivial⟩
    | true =>
      rw [settleLookup, if_pos he]
      refine ⟨rfl, ?_⟩
      rintro (e | ⟨⟩)
      · exact ⟨rfl, trivial⟩
      · exact ⟨rfl, trivial⟩
  · rw [settleLookup, reportDrift]
    split
    · exact ⟨rfl, trivial⟩
    · exact ⟨rfl, trivial⟩

/-- Between two dependents nothing is owed. -/
theorem honest_converge (deadline : Instant) (policy : DriftPolicy) (key : ObjectKey)
    (wants : List Dependent) :
    (converge deadline policy key wants).owes = 0 ∧
      (converge deadline policy key wants).Honest := by
  induction wants with
  | nil => exact ⟨rfl, trivial⟩
  | cons want rest ih =>
    refine ⟨rfl, (honest_ensure deadline policy want).bind ?_⟩
    intro o
    -- the pass goes on only behind a dependent that was there
    cases o with
    | alreadyExists => exact ih
    | created => exact ⟨rfl, trivial⟩
    | createConflict => exact ⟨rfl, trivial⟩
    | createFailed cause => exact ⟨rfl, trivial⟩
    | lookupFailed cause => exact ⟨rfl, trivial⟩

theorem honest_pass (deadline : Instant) (policy : DriftPolicy) (key : ObjectKey) :
    (pass deadline policy key).Honest := by
  intro fetched
  refine settleFetch_elim (P := fun p => p.owes = 0 ∧ p.Honest) ?absent ?unfetched ?terminating
    ?malformed ?served
  case served =>
    intro i desired _ _
    exact honest_converge deadline policy key _
  -- fetching creates nothing, and the traces behind it count nothing created
  all_goals intros; exact ⟨rfl, trivial⟩

/-! ## A lost creation is the last move -/

/-- The move is a creation that came too late. -/
def Move.Lost (m : Move) : Prop :=
  ∃ d target, m = .asked (.create d) (.error (.alreadyExists target))

theorem not_lost_get {kind : Kind} {key : ObjectKey} {result : Except StoreError Dependent} :
    ¬ (Move.asked (.get kind key) result).Lost := by
  rintro ⟨d, target, h⟩
  cases h

theorem not_lost_left {e : Effect} : ¬ (Move.left e).Lost := by
  rintro ⟨d, target, h⟩
  cases h

theorem not_lost_refused {d : Dependent} {e : StoreError} (he : e.isAlreadyExists = false) :
    ¬ (Move.asked (.create d) (.error e)).Lost := by
  rintro ⟨d', target, h⟩
  cases h
  cases he

/-- No move comes behind a lost creation, and the pass asks to be run again. -/
theorem series_lost {policy : DriftPolicy} {key : ObjectKey} {wants : List Dependent}
    {ms : List Move} {result : PassEnd} (hseries : Series policy key wants ms result) :
    ms.Pairwise (fun m _ => ¬ m.Lost) ∧ ((∃ m ∈ ms, m.Lost) → result = .ok .requeue) := by
  induction hseries with
  | nil => simp
  | @found want rest ms result live tail ih =>
    -- neither a lookup nor the report of differences is a creation
    obtain ⟨hlast, hresult⟩ := ih
    have hdrift : ∀ m ∈ driftMoves policy want live, ¬ m.Lost := by
      intro m hm
      rcases mem_driftMoves hm with rfl | rfl <;> exact not_lost_left
    constructor
    · refine List.pairwise_cons.2 ⟨fun _ _ => not_lost_get, ?_⟩
      refine List.pairwise_append.2 ⟨?_, hlast, fun m hm _ _ => hdrift m hm⟩
      exact List.Pairwise.imp_of_mem (fun hm _ _ => hdrift _ hm)
        (List.pairwise_of_forall fun _ _ => trivial)
    · rintro ⟨m, hm, hlost⟩
      rcases mem_found hm with rfl | rfl | rfl | hm
      · exact absurd hlost not_lost_get
      · exact absurd hlost not_lost_left
      · exact absurd hlost not_lost_left
      · exact hresult ⟨m, hm, hlost⟩
  | unseen e he => simp [Move.Lost]
  | created target => simp [Move.Lost]
  -- the lost creation is the last of its moves
  | outrun target target' => simp [Move.Lost]
  | refused target e he => simp [not_lost_get, not_lost_left, not_lost_refused he]

/-- A creation that came too late is the last move of its pass, which is to be repeated. -/
theorem passCourse_lost {policy : DriftPolicy} {key : ObjectKey} {ms : List Move}
    {result : PassEnd} (hcourse : PassCourse policy key ms result) :
    ms.Pairwise (fun m _ => ¬ m.Lost) ∧ ((∃ m ∈ ms, m.Lost) → result = .ok .requeue) := by
  cases hcourse with
  | absent target => simp [Move.Lost]
  | unfetched e he => simp [Move.Lost]
  | terminating i hi => simp [Move.Lost]
  | malformed i cause hi hd => simp [Move.Lost]
  | served i desired hi hd hs =>
    obtain ⟨hlast, hresult⟩ := series_lost hs
    constructor
    · refine List.pairwise_cons.2 ⟨?_, hlast⟩
      simp [Move.Lost]
    · rintro ⟨m, hm, hlost⟩
      rcases List.mem_cons.1 hm with rfl | hm
      · simp [Move.Lost] at hlost
      · exact hresult ⟨m, hm, hlost⟩

/-- A pass that has lost a creation has ended and asks to be run again. -/
theorem Underway.Sound.requeue_of_lost {p : Underway} (hp : p.Sound) {m : Move} (hm : m ∈ p.past)
    (hlost : m.Lost) : p.rest = .done (.ok .requeue) := by
  obtain ⟨ms, result, hrest, hcourse⟩ := hp.exists_passCourse
  obtain ⟨hlast, hresult⟩ := passCourse_lost hcourse
  cases ms with
  | cons m' ms =>
    -- a move to come would stand behind the lost creation
    have hbehind := (List.pairwise_append.1 hlast).2.2 m hm m' List.mem_cons_self
    exact absurd hlost hbehind
  | nil =>
    rw [Program.eq_done_of_course_nil hrest,
      hresult ⟨m, List.mem_append_left _ hm, hlost⟩]

/-! ## What every step keeps -/

namespace Concourse

/-- What is known of passes in flight: nothing stands in the way of any call, the moves of each
pass belong to a course of it, what they have told holds, and what is created will be counted. -/
structure Kept (c : Concourse) : Prop where
  free : c.store.FailureFree
  sound : ∀ p ∈ c.passes, p.Sound
  told : ∀ p ∈ c.passes, ∀ m ∈ p.past, m.Holds c.store
  honest : ∀ p ∈ c.passes, p.rest.Honest

/-- All this holds at the beginning, when no pass has made a move. -/
theorem kept_of_fresh {c : Concourse} (hfree : c.store.FailureFree)
    (hfresh : ∀ p ∈ c.passes, p.Fresh) : c.Kept := by
  constructor
  · exact hfree
  · intro p hp
    obtain ⟨deadline, hstart⟩ := hfresh p hp
    rw [hstart]
    exact Underway.sound_start _ _ _
  · intro p hp m hm
    obtain ⟨deadline, hstart⟩ := hfresh p hp
    rw [hstart] at hm
    cases hm
  · intro p hp
    obtain ⟨deadline, hstart⟩ := hfresh p hp
    rw [hstart]
    exact honest_pass _ _ _

/-- Each move of a pass, among moves of others, keeps what holds of all of them. -/
theorem Kept.step {c d : Concourse} {m : Move} (hc : c.Kept) (h : Step c m d) : d.Kept := by
  cases h with
  | @call s t b before after p deadline call rest result hp hserves =>
    have hreply : s.Replies call result t := hserves.replies
    have hmem : p ∈ before ++ p :: after := by simp
    constructor
    · exact hc.free.of_replies hreply
    · exact forall_replace hc.sound ((hc.sound p hmem).asked hp result)
    · -- what was told before still holds, since the store has only grown
      have hgrown : ∀ q ∈ before ++ p :: after, ∀ m ∈ q.past, m.Holds t :=
        fun q hq m hm => (hc.told q hq m hm).mono hreply.grows
      refine forall_replace hgrown ?_
      intro m hm
      rcases List.mem_append.1 hm with hm | hm
      · exact hgrown p hmem m hm
      · obtain rfl := List.mem_singleton.1 hm
        exact hc.free.calm.holds_of_serves hserves
    · have hhonest := hc.honest p hmem
      rw [hp] at hhonest
      exact forall_replace hc.honest (hhonest result).2
  | @leave s b before after p e rest hp =>
    have hmem : p ∈ before ++ p :: after := by simp
    constructor
    · exact hc.free
    · exact forall_replace hc.sound ((hc.sound p hmem).left hp)
    · refine forall_replace hc.told ?_
      intro m hm
      rcases List.mem_append.1 hm with hm | hm
      · exact hc.told p hmem m hm
      · obtain rfl := List.mem_singleton.1 hm
        exact trivial
    · have hhonest := hc.honest p hmem
      rw [hp] at hhonest
      exact forall_replace hc.honest hhonest

/-- What holds of passes on one store goes on to hold in every interleaving of their moves. -/
theorem Kept.interleaves {c d : Concourse} {ms : List Move} (hc : c.Kept)
    (h : c.Interleaves ms d) : d.Kept := by
  induction h with
  | nil c => exact hc
  | cons first others ih => exact ih (hc.step first)

/-- How many created dependents passes have yet to count. -/
def owed : List Underway → Nat
  | [] => 0
  | p :: ps => p.rest.owes + owed ps

theorem owed_append (ps qs : List Underway) : owed (ps ++ qs) = owed ps + owed qs := by
  induction ps with
  | nil => simp [owed]
  | cons p ps ih =>
    simp only [List.cons_append, owed, ih]
    omega

theorem owed_eq_zero {ps : List Underway} (h : ∀ p ∈ ps, p.rest.owes = 0) : owed ps = 0 := by
  induction ps with
  | nil => rfl
  | cons p ps ih =>
    have hp := h p List.mem_cons_self
    have hps := ih fun q hq => h q (List.mem_cons_of_mem _ hq)
    simp only [owed]
    omega

/-- What is created is counted or owed. -/
theorem Kept.owed_step {c d : Concourse} {m : Move} (hc : c.Kept) (h : Step c m d) :
    owed c.passes + m.creation?.isSome.toNat = owed d.passes + m.counts.toNat := by
  cases h with
  | @call s t b before after p deadline call rest result hp hserves =>
    have hhonest := hc.honest p (by simp)
    rw [hp] at hhonest
    have howes := (hhonest result).1
    simp only [owed_append, owed, Underway.advance, hp, Program.owes, Move.counts, Bool.toNat_false]
    omega
  | @leave s b before after p e rest hp =>
    simp only [owed_append, owed, Underway.advance, hp, Program.owes, Move.counts, Move.creation?,
      Option.isSome_none, Bool.toNat_false]
    omega

/-- What is created and not yet counted is owed by some pass. -/
theorem Kept.owed_interleaves {c d : Concourse} {ms : List Move} (hc : c.Kept)
    (h : c.Interleaves ms d) :
    owed c.passes + ms.countP (·.creation?.isSome) = owed d.passes + ms.countP Move.counts := by
  induction h with
  | nil c => rfl
  | @cons c d e m ms first others ih =>
    have hstep := hc.owed_step first
    have hrest := ih (hc.step first)
    rw [countP_cons_toNat, countP_cons_toNat]
    omega

theorem owed_of_fresh {c : Concourse} (hfresh : ∀ p ∈ c.passes, p.Fresh) : owed c.passes = 0 := by
  apply owed_eq_zero
  intro p hp
  obtain ⟨deadline, hstart⟩ := hfresh p hp
  rw [hstart]
  rfl

/-- Passes that are about to leave no trace owe nothing. -/
theorem owed_of_settled {c : Concourse} (hsettled : c.Settled) : owed c.passes = 0 := by
  apply owed_eq_zero
  intro p hp
  cases hrest : p.rest with
  | done a => rfl
  | emit e rest => exact absurd hrest (hsettled p hp e rest)
  | ask d c rest => rfl

end Concourse

/-! ## The result -/

/-- **Passes in flight together.** Passes begin on a store in which nothing stands in the way of any
call and whose instances all have a desired state. However their calls and traces interleave, a
dependent that is there stays there unchanged; no key of a kind is created twice; a pass whose
creation comes too late asks to be run again, and none fails; a pass that is done for an instance
leaves all three dependents of it there. The dependents that are added are as many as the creations
and, as soon as no trace is pending, as many as the counters have counted. -/
theorem interleaved_passes_agree {start mid now : Concourse} {ms ms' : List Move}
    (hfresh : ∀ p ∈ start.passes, p.Fresh) (hfree : start.store.FailureFree)
    (haccepted : ∀ key i, start.store.instances.get? key = some i →
      ∃ desired, desiredState i = .ok desired)
    (hmid : start.Interleaves ms mid) (hnow : mid.Interleaves ms' now) :
    (∀ k d, mid.store.dependents.get? k = some d → now.store.dependents.get? k = some d) ∧
    (∀ k, (ms ++ ms').countP (Move.creates k) ≤ 1) ∧
    (∀ p ∈ now.passes,
      (∀ d e, .asked (.create d) (.error e) ∈ p.past → p.rest = .done (.ok .requeue)) ∧
      (∀ cause, p.rest ≠ .done (.error cause)) ∧
      (p.rest = .done (.ok .done) → ∀ i desired, now.store.instances.get? p.key = some i →
        i.metadata.deletionTimestamp = none → desiredState i = .ok desired →
        ∀ kind, (now.store.dependents.get? (kind, (desired.get kind).key)).isSome)) ∧
    ∃ added, now.store.dependents.size = start.store.dependents.size + added ∧
      now.store.creations = start.store.creations + added ∧
      (now.Settled →
        now.books.metrics.createdTotal = start.books.metrics.createdTotal + added) := by
  have hall : start.Interleaves (ms ++ ms') now := hmid.append hnow
  have hkept : start.Kept := Concourse.kept_of_fresh hfree hfresh
  have hkeptmid : mid.Kept := hkept.interleaves hmid
  have hkeptnow : now.Kept := hkept.interleaves hall
  have htally := tallied_of_along hfree (Concourse.interleaves_serves hall)
  have hlater := tallied_of_along hkeptmid.free (Concourse.interleaves_serves hnow)
  refine ⟨hlater.grows.dependents, htally.creates_le_one, ?_, _, htally.size, htally.creations, ?_⟩
  · intro p hp
    have hsound := hkeptnow.sound p hp
    have haccepted' : ∀ i, now.store.instances.get? p.key = some i →
        ∃ desired, desiredState i = .ok desired := by
      intro i hi
      rw [htally.grows.instances] at hi
      exact haccepted p.key i hi
    -- how a pass ends is told by its moves, which all hold of the store as it is now
    have hend : ∀ result, p.rest = .done result → result = .ok .requeue ∨ (result = .ok .done ∧
        ∀ i desired, now.store.instances.get? p.key = some i →
          i.metadata.deletionTimestamp = none → desiredState i = .ok desired →
          ∀ kind, (now.store.dependents.get? (kind, (desired.get kind).key)).isSome) :=
      fun result h => passCourse_end (hsound.passCourse_of_done h) (hkeptnow.told p hp) haccepted'
    refine ⟨?_, ?_, ?_⟩
    · intro d e hm
      have htold : (Move.asked (.create d) (.error e)).Holds now.store := hkeptnow.told p hp _ hm
      obtain ⟨target, rfl⟩ := StoreError.isAlreadyExists_iff.1 htold.1
      exact hsound.requeue_of_lost hm ⟨d, target, rfl⟩
    · intro cause h
      rcases hend _ h with hrequeue | ⟨hdone, -⟩
      · cases hrequeue
      · cases hdone
    · intro h
      rcases hend _ h with hrequeue | ⟨-, hthere⟩
      · cases hrequeue
      · exact hthere
  · intro hsettled
    -- nothing is owed at the start or at the end, so what was created has been counted
    have howed := hkept.owed_interleaves hall
    rw [Concourse.owed_of_fresh hfresh, Concourse.owed_of_settled hsettled] at howed
    rw [Concourse.interleaves_counts hall]
    omega

/-- Two passes for one instance, none of whose dependents is there. -/
def race : Concourse where
  store := MemoryStore.addInstance {} (Identity.mk "mine" "prod" "u-1").bare
  books := { tracker := { min := Duration.zero, max := Duration.zero } }
  passes := [.start Instant.origin .report ⟨"prod", "mine"⟩,
    .start Instant.origin .report ⟨"prod", "mine"⟩]

/-- Both passes find that the deployment is missing; the first creates it, the second comes too
late, and both ask to be run again. -/
theorem race_agrees :
    ∃ ms now, race.Interleaves ms now ∧ (∀ p ∈ now.passes, p.rest = .done (.ok .requeue)) ∧
      (∀ k, ms.countP (Move.creates k) ≤ 1) ∧ now.store.creations = 1 ∧
      now.books.metrics.createdTotal = 1 := by
  -- the passes take turns up to the creations, then the first leaves its traces
  have hrun : ∃ ms now, race.Interleaves ms now ∧
      (∀ p ∈ now.passes, p.rest = .done (.ok .requeue)) ∧ now.store.creations = 1 := by
    refine ⟨_, _, .cons (@Concourse.Step.call _ _ _ [] [_] _ _ _ _ _ rfl rfl) <|
      .cons (@Concourse.Step.call _ _ _ [_] [] _ _ _ _ _ rfl rfl) <|
      .cons (@Concourse.Step.call _ _ _ [] [_] _ _ _ _ _ rfl rfl) <|
      .cons (@Concourse.Step.call _ _ _ [_] [] _ _ _ _ _ rfl rfl) <|
      .cons (@Concourse.Step.call _ _ _ [] [_] _ _ _ _ _ rfl rfl) <|
      .cons (@Concourse.Step.call _ _ _ [_] [] _ _ _ _ _ rfl rfl) <|
      .cons (@Concourse.Step.leave _ _ [] [_] _ _ _ rfl) <|
      .cons (@Concourse.Step.leave _ _ [] [_] _ _ _ rfl) <|
      .cons (@Concourse.Step.leave _ _ [] [_] _ _ _ rfl) (.nil _), ?_, rfl⟩
    intro p hp
    rcases List.mem_cons.1 hp with rfl | hp
    · rfl
    · obtain rfl := List.mem_singleton.1 hp
      rfl
  obtain ⟨ms, now, hrun, hended, hone⟩ := hrun
  have hfresh : ∀ p ∈ race.passes, p.Fresh := by
    intro p hp
    rcases List.mem_cons.1 hp with rfl | hp
    · exact ⟨Instant.origin, rfl⟩
    · obtain rfl := List.mem_singleton.1 hp
      exact ⟨Instant.origin, rfl⟩
  have hfree : race.store.FailureFree := by
    intro c
    cases c with
    | getInstance key => rfl
    | get kind key => cases kind <;> rfl
    | create d => exact PerKind.get_const none d.kind
  have haccepted : ∀ key i, race.store.instances.get? key = some i →
      ∃ desired, desiredState i = .ok desired := by
    intro key i hi
    have hmem := Registry.get?_eq_some_iff.1 hi
    obtain ⟨-, rfl⟩ := Prod.mk.inj (List.mem_singleton.1 hmem)
    exact ⟨_, Identity.desiredState_bare (by decide) (by decide) (by decide) (by decide)⟩
  obtain ⟨-, hcreates, -, added, -, hcreations, hcounted⟩ :=
    interleaved_passes_agree hfresh hfree haccepted (.nil race) hrun
  have hsettled : now.Settled := by
    intro p hp e rest h
    rw [hended p hp] at h
    cases h
  have hadded : now.store.creations = 0 + added := hcreations
  have htotal : now.books.metrics.createdTotal = 0 + added := hcounted hsettled
  refine ⟨ms, now, hrun, hended, hcreates, hone, ?_⟩
  omega

end InstanceOperator
