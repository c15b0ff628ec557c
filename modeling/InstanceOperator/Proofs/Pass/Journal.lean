import InstanceOperator.Pass.Timed
import InstanceOperator.Proofs.Store.Replies

/-!
# The journal of a run

A run of a program in time makes the moves of one of its courses, and the store replies along them.
`Program.moves` says which moves these are, so that what is known of every course is known of the
run, and what happens in the run can be spoken of by the moves before and behind it.

A pass whose call is given up ends there: it makes no other call, and the error with which it ends
names the call (`pass_givesUp`). This is what ties the time limit to the moves.

* `course_moves`, `along_moves`: a run is a course along which the store replies.
* `Program.GivesUp`: no call follows one that was given up.
* `calls_of_givesUp`: the store remembers every call but one that was given up.
-/

namespace InstanceOperator

def Waits.zero : Waits := fun _ _ => some 0

def Move.call? : Move → Option Call
  | .asked c _ => some c
  | .left _ => none

def Move.trace? : Move → Option Effect
  | .asked _ _ => none
  | .left e => some e

namespace Program

variable {α : Type} {waits : Waits}

/-- The moves that a run makes. -/
def moves (waits : Waits) : Program α → Run → List Move
  | .done _, _ => []
  | .emit e rest, r => .left e :: rest.moves waits (r.leave e)
  | .ask d c rest, r =>
    .asked c (r.answer waits d c).1 ::
      (rest (r.answer waits d c).1).moves waits (r.answer waits d c).2

def calls (waits : Waits) (p : Program α) (r : Run) : List Call :=
  (p.moves waits r).filterMap Move.call?

theorem run_ask (d : Instant) (c : Call) (rest : c.Result → Program α) (r : Run) :
    (Program.ask d c rest).run waits r =
      (rest (r.answer waits d c).1).run waits (r.answer waits d c).2 := rfl

@[simp] theorem calls_done (a : α) (r : Run) : (Program.done a).calls waits r = [] := rfl

@[simp] theorem calls_emit (e : Effect) (rest : Program α) (r : Run) :
    (Program.emit e rest).calls waits r = rest.calls waits (r.leave e) := rfl

@[simp] theorem calls_ask (d : Instant) (c : Call) (rest : c.Result → Program α) (r : Run) :
    (Program.ask d c rest).calls waits r =
      c :: (rest (r.answer waits d c).1).calls waits (r.answer waits d c).2 := rfl

end Program

/-! ## Runs are courses -/

/-- What a run answers to a call is a reply of its store. -/
theorem answer_replies (waits : Waits) (r : Run) (d : Instant) (c : Call) :
    r.store.Replies c (r.answer waits d c).1 (r.answer waits d c).2.store := by
  unfold Run.answer
  split
  · exact .abandoned
  · next wait hwait =>
    split
    · split
      · next result t hserve => exact MemoryStore.Serves.replies hserve
      · next t hserve => exact MemoryStore.replies_of_silence hserve
    · exact .abandoned

section courses

variable {α : Type} (waits : Waits) (p : Program α) (r : Run)

/-- The moves of a run are those of a course of its program. -/
theorem course_moves : p.Course (p.moves waits r) (p.run waits r).1 := by
  induction p generalizing r with
  | done a => exact ⟨rfl, rfl⟩
  | emit e rest ih => exact ⟨_, rfl, ih (r.leave e)⟩
  | ask d c rest ih => exact ⟨_, _, rfl, ih _ _⟩

/-- The store replies along the moves of a run. -/
theorem along_moves :
    Along MemoryStore.Replies r.store (p.moves waits r) (p.run waits r).2.store := by
  induction p generalizing r with
  | done a => rfl
  | emit e rest ih => exact ih (r.leave e)
  | ask d c rest ih =>
    refine ⟨(r.answer waits d c).2.store, answer_replies waits r d c, ?_⟩
    exact ih _ _

end courses

/-- No call leaves a trace. -/
theorem Run.effects_answer (waits : Waits) (r : Run) (d : Instant) (c : Call) :
    (r.answer waits d c).2.effects = r.effects := by
  unfold answer
  split
  · rfl
  · split
    · split <;> rfl
    · rfl

/-- The traces that a run leaves are those of its moves, in order. -/
theorem effects_run {α : Type} (waits : Waits) (p : Program α) (r : Run) :
    (p.run waits r).2.effects =
      r.effects ++ (p.moves waits r).filterMap Move.trace? := by
  induction p generalizing r with
  | done a => exact (List.append_nil _).symm
  | emit e rest ih =>
    have hrest := ih (r.leave e)
    have hleave : (r.leave e).effects = r.effects ++ [e] := rfl
    rw [hleave, List.append_assoc] at hrest
    exact hrest
  | ask d c rest ih =>
    have hrest := ih (r.answer waits d c).1 (r.answer waits d c).2
    rw [Run.effects_answer] at hrest
    exact hrest

/-! ## Calls that are given up -/

namespace Program

variable {α : Type}

/-- The program makes no call and ends with a value. -/
def EndsWith (a : α) : Program α → Prop
  | .done b => b = a
  | .emit _ rest => rest.EndsWith a
  | .ask _ _ _ => False

/-- The program makes no call behind one that was given up, and ends with a value that depends on
that call only. -/
def GivesUp (give : Call → α) : Program α → Prop
  | .done _ => True
  | .emit _ rest => rest.GivesUp give
  | .ask _ c rest =>
    (rest (.error c.expired)).EndsWith (give c) ∧ ∀ result, (rest result).GivesUp give

variable {a : α} {p : Program α} {waits : Waits}

/-- A program that only ends makes no calls. -/
theorem EndsWith.calls (h : p.EndsWith a) (r : Run) : p.calls waits r = [] := by
  induction p generalizing r with
  | done b => rfl
  | emit e rest ih => exact ih h (r.leave e)
  | ask d c rest ih => exact h.elim

/-- A program without calls ends with its value and leaves store and time alone. -/
theorem EndsWith.run (h : p.EndsWith a) (waits : Waits) (r : Run) :
    (p.run waits r).1 = a ∧ (p.run waits r).2.store = r.store ∧
      (p.run waits r).2.now = r.now := by
  induction p generalizing r with
  | done b => exact ⟨h, rfl, rfl⟩
  | emit e rest ih => exact ih h (r.leave e)
  | ask d c rest ih => exact h.elim

end Program

/-- The error of a pass whose call was given up. -/
def OperatorError.givenUp : Call → OperatorError
  | .getInstance key => .store (Call.getInstance key).expired
  | .get kind key => .lookup kind key.text (Call.get kind key).expired
  | .create d => .create d.kind d.key.text (Call.create d).expired

/-- A pass that ran out of time may succeed another time. -/
theorem OperatorError.isRetryable_givenUp (c : Call) : (givenUp c).isRetryable = true := by
  cases c <;> rfl

theorem reportDrift_givesUp {α : Type} {policy : DriftPolicy} {want live : Dependent}
    {rest : Program α} {give : Call → α} (h : rest.GivesUp give) :
    (reportDrift policy want live rest).GivesUp give := by
  unfold reportDrift
  split <;> exact h

/-- Whichever call of a pass is given up, the pass ends with it. -/
theorem converge_givesUp (deadline : Instant) (policy : DriftPolicy) (key : ObjectKey)
    (wants : List Dependent) :
    (converge deadline policy key wants).GivesUp fun c => .error (.givenUp c) := by
  induction wants with
  | nil => trivial
  | cons want rest ih =>
    refine ⟨rfl, ?_⟩
    intro looked
    apply settleLookup_elim
    · intro live _
      exact reportDrift_givesUp ih
    · intro e _ _
      refine ⟨rfl, ?_⟩
      intro made
      apply settleCreate_elim <;> intros <;> trivial
    · intro e _ _
      trivial

/-- A pass ends with the first call that is given up, and its error names the call. -/
theorem pass_givesUp (deadline : Instant) (policy : DriftPolicy) (key : ObjectKey) :
    (pass deadline policy key).GivesUp fun c => .error (.givenUp c) := by
  refine ⟨rfl, ?_⟩
  intro fetched
  apply settleFetch_elim
  case served =>
    intro i desired _ _
    exact converge_givesUp deadline policy key _
  -- in all other cases there is no call that could be given up
  all_goals intros; trivial

/-! ## The calls that the store remembers -/

/-- The store remembers a call, or has not seen it: then the call was given up. -/
theorem answer_remembers (waits : Waits) (r : Run) (d : Instant) (c : Call) :
    (r.answer waits d c).2.store.calls = r.store.calls ++ [c.record] ∨
      ((r.answer waits d c).1 = .error c.expired ∧
        (r.answer waits d c).2.store = r.store) := by
  have hserved : (r.store.serve c).2.calls = r.store.calls ++ [c.record] :=
    (r.store.touched_serve c).calls
  unfold Run.answer
  split
  · exact .inr ⟨rfl, rfl⟩
  · -- in time the call is served, and so remembered, even if the store is silent
    next wait hwait =>
    split
    · left
      split
      · next result t hserve =>
        rw [hserve] at hserved
        exact hserved
      · next t hserve =>
        rw [hserve] at hserved
        exact hserved
    · exact .inr ⟨rfl, rfl⟩

/-- The store remembers the calls of a program in order. If the program makes no call behind one
that was given up, the last one only may be lacking. -/
theorem calls_of_givesUp {α : Type} {p : Program α} {give : Call → α} (h : p.GivesUp give)
    (waits : Waits) (r : Run) :
    ∃ heard, (p.run waits r).2.store.calls = r.store.calls ++ heard.map Call.record ∧
      (p.calls waits r = heard ∨
        ∃ c, p.calls waits r = heard ++ [c] ∧
          .asked c (.error c.expired) ∈ p.moves waits r) := by
  induction p generalizing r with
  | done a => exact ⟨[], (List.append_nil _).symm, .inl rfl⟩
  | emit e rest ih =>
    obtain ⟨heard, hcalls, hmade⟩ := ih h (r.leave e)
    refine ⟨heard, hcalls, ?_⟩
    rcases hmade with hmade | ⟨c, hmade, hgiven⟩
    · exact .inl hmade
    · exact .inr ⟨c, hmade, List.mem_cons_of_mem _ hgiven⟩
  | ask d c rest ih =>
    obtain ⟨hexpired, hrest⟩ := h
    rcases answer_remembers waits r d c with hserved | ⟨hgiven, hsame⟩
    · obtain ⟨heard, hcalls, hmade⟩ :=
        ih (r.answer waits d c).1 (hrest _) (r.answer waits d c).2
      refine ⟨c :: heard, ?_, ?_⟩
      · rw [Program.run_ask, hcalls, hserved, List.append_assoc]
        rfl
      · rw [Program.calls_ask]
        rcases hmade with hmade | ⟨c', hmade, hgiven⟩
        · exact .inl (by rw [hmade])
        · exact .inr ⟨c', by rw [hmade]; rfl, List.mem_cons_of_mem _ hgiven⟩
    · -- the call was given up, so it was the last one
      have hends : (rest (r.answer waits d c).1).EndsWith (give c) := by
        rw [hgiven]
        exact hexpired
      refine ⟨[], ?_, .inr ⟨c, ?_, ?_⟩⟩
      · rw [Program.run_ask, (hends.run waits _).2.1, hsame]
        exact (List.append_nil _).symm
      · rw [Program.calls_ask, hends.calls]
        rfl
      · unfold Program.moves
        rw [hgiven]
        exact List.mem_cons_self

end InstanceOperator
