import InstanceOperator.Pass.Converge

/-!
# The courses of a pass

A program leaves a sequence of moves behind: the calls it made with the results it got, and the
traces it left. Its *courses* are the sequences that some results of its calls lead to, so that a
statement about all courses holds for every store, whatever it answers.

`course_pass_iff` describes the courses of a pass completely: the instance is fetched, the kinds
are looked up in order while they are found, and the first kind that is not found ends the pass
with one creation at most. What a pass does is said here once; what it does to a store, alone or
among others, is derived from this. A property of the program itself is shown branch by branch with
`settleLookup_elim`, `settleCreate_elim` and `settleFetch_elim`.
-/

namespace InstanceOperator

/-- A move of a program: a call with its result, or a trace that it leaves. -/
inductive Move where
  | asked (call : Call) (result : call.Result)
  | left (effect : Effect)

namespace Program

variable {α β : Type}

/-- The program can make these moves and then end with a value. -/
def Course : Program α → List Move → α → Prop
  | .done a, ms, b => ms = [] ∧ b = a
  | .emit e rest, ms, b => ∃ tail, ms = .left e :: tail ∧ rest.Course tail b
  | .ask _ c rest, ms, b =>
    ∃ result tail, ms = .asked c result :: tail ∧ (rest result).Course tail b

/-- A program without moves has ended. -/
theorem eq_done_of_course_nil {p : Program α} {a : α} (h : p.Course [] a) : p = .done a := by
  cases p with
  | done b =>
    obtain ⟨-, rfl⟩ := h
    rfl
  | emit e rest =>
    obtain ⟨tail, hnil, -⟩ := h
    cases hnil
  | ask d c rest =>
    obtain ⟨result, tail, hnil, -⟩ := h
    cases hnil

/-- Every program has a course: its calls may all be given up. -/
theorem exists_course (p : Program α) : ∃ ms a, p.Course ms a := by
  induction p with
  | done a => exact ⟨[], a, rfl, rfl⟩
  | emit e rest ih =>
    obtain ⟨ms, a, h⟩ := ih
    exact ⟨.left e :: ms, a, ms, rfl, h⟩
  | ask d c rest ih =>
    obtain ⟨ms, a, h⟩ := ih (.error c.expired)
    exact ⟨.asked c (.error c.expired) :: ms, a, .error c.expired, ms, rfl, h⟩

/-- A course of a program that goes on with another is a course of each, one behind the other. -/
theorem course_bind {p : Program α} {f : α → Program β} {ms : List Move} {b : β} :
    (p.bind f).Course ms b ↔
      ∃ first a second, ms = first ++ second ∧ p.Course first a ∧ (f a).Course second b := by
  induction p generalizing ms with
  | done a =>
    constructor
    · intro h
      exact ⟨[], a, ms, rfl, ⟨rfl, rfl⟩, h⟩
    · rintro ⟨first, a', second, rfl, ⟨rfl, rfl⟩, h⟩
      exact h
  | emit e rest ih =>
    constructor
    · rintro ⟨tail, rfl, h⟩
      obtain ⟨first, a, second, rfl, h₁, h₂⟩ := ih.1 h
      exact ⟨.left e :: first, a, second, rfl, ⟨first, rfl, h₁⟩, h₂⟩
    · rintro ⟨first, a, second, rfl, ⟨tail, rfl, h₁⟩, h₂⟩
      exact ⟨tail ++ second, rfl, ih.2 ⟨tail, a, second, rfl, h₁, h₂⟩⟩
  | ask d c rest ih =>
    constructor
    · rintro ⟨result, tail, rfl, h⟩
      -- the call is the first move of the first part, in front of what the rest of it makes
      obtain ⟨first, a, second, rfl, h₁, h₂⟩ := (ih result).1 h
      exact ⟨.asked c result :: first, a, second, rfl, ⟨result, first, rfl, h₁⟩, h₂⟩
    · rintro ⟨first, a, second, rfl, ⟨result, tail, rfl, h₁⟩, h₂⟩
      exact ⟨result, tail ++ second, rfl, (ih result).2 ⟨tail, a, second, rfl, h₁, h₂⟩⟩

end Program

/-! ## How a pass goes on behind a call -/

/-- Going on with a report of differences goes on behind the report. -/
theorem reportDrift_bind {α β : Type} (policy : DriftPolicy) (want live : Dependent)
    (rest : Program α) (f : α → Program β) :
    (reportDrift policy want live rest).bind f = reportDrift policy want live (rest.bind f) := by
  unfold reportDrift
  split <;> rfl

section elim

variable {α : Type} {deadline : Instant} {policy : DriftPolicy} {key : ObjectKey}
  {want : Dependent} {f : Outcome → Program α} {P : Program α → Prop}

/-- Behind a lookup, what was found is compared, what is missing is created, and any other failure
is the outcome. -/
theorem settleLookup_elim {looked : Except StoreError Dependent}
    (found : ∀ live, looked = .ok live → P (reportDrift policy want live (f .alreadyExists)))
    (missing : ∀ e, looked = .error e → e.isNotFound = true →
      P (.ask deadline (.create want) fun made => (settleCreate want made).bind f))
    (unseen : ∀ e, looked = .error e → e.isNotFound = false → P (f (.lookupFailed e))) :
    P ((settleLookup deadline policy want looked).bind f) := by
  rcases looked with e | live
  · cases he : e.isNotFound with
    | true =>
      rw [settleLookup, if_pos he]
      exact missing e rfl he
    | false =>
      rw [settleLookup, if_neg (by simp [he])]
      exact unseen e rfl he
  · rw [settleLookup, reportDrift_bind]
    exact found live rfl

/-- Behind a creation, its success leaves two traces, and of its failures the conflict is an outcome
of its own. -/
theorem settleCreate_elim {made : Except StoreError Unit}
    (created : made = .ok () →
      P (.emit (.log (.created want.kind want.key))
        (.emit (.count (.created want.kind)) (f .created))))
    (outrun : ∀ e, made = .error e → e.isAlreadyExists = true → P (f .createConflict))
    (refused : ∀ e, made = .error e → e.isAlreadyExists = false → P (f (.createFailed e))) :
    P ((settleCreate want made).bind f) := by
  rcases made with e | ⟨⟩
  · cases he : e.isAlreadyExists with
    | true =>
      rw [settleCreate, if_pos he]
      exact outrun e rfl he
    | false =>
      rw [settleCreate, if_neg (by simp [he])]
      exact refused e rfl he
  · exact created rfl

/-- Behind the fetch of its instance a pass is over, unless the instance is there, stays, and has a
desired state. -/
theorem settleFetch_elim {P : Program PassEnd → Prop} {fetched : Except StoreError Instance}
    (absent : ∀ e, fetched = .error e → e.isNotFound = true → P (.done (.ok .done)))
    (unfetched : ∀ e, fetched = .error e → e.isNotFound = false →
      P (.emit (.log (.fetchFailed key e)) (.done (.error (.store e)))))
    (terminating : P (.emit (.log (.terminating key)) (.done (.ok .done))))
    (malformed : ∀ cause, P (.done (.error (.malformed cause))))
    (served : ∀ i desired, fetched = .ok i → desiredState i = .ok desired →
      P (converge deadline policy key (Kind.ordered.map desired.get))) :
    P (settleFetch deadline policy key fetched) := by
  rcases fetched with e | i
  · cases he : e.isNotFound with
    | true =>
      rw [settleFetch, if_pos he]
      exact absent e rfl he
    | false =>
      rw [settleFetch, if_neg (by simp [he])]
      exact unfetched e rfl he
  · rw [settleFetch, convergeInstance]
    split
    · exact terminating
    · cases hd : desiredState i with
      | error cause => exact malformed cause
      | ok desired => exact served i desired rfl hd

end elim

/-! ## Moves against a store -/

/-- A store answers the calls among some moves one after the other, each as a relation between the
store before, the call, its result and the store behind allows. -/
def Along {σ : Type} (answers : σ → (c : Call) → c.Result → σ → Prop) : σ → List Move → σ → Prop
  | s, [], t => t = s
  | s, .asked c result :: ms, t => ∃ u, answers s c result u ∧ Along answers u ms t
  | s, .left _ :: ms, t => Along answers s ms t

/-! ## Ensuring one dependent -/

/-- The traces of finding an existing dependent. -/
def driftMoves (policy : DriftPolicy) (want live : Dependent) : List Move :=
  if policy = .report ∧ detectDrift want live ≠ [] then
    [.left (.log (.drifted want.kind want.key (detectDrift want live))),
      .left (.count (.drifted want.kind))]
  else []

/-- Finding a dependent leaves two traces at most. -/
theorem mem_driftMoves {policy : DriftPolicy} {want live : Dependent} {m : Move}
    (h : m ∈ driftMoves policy want live) :
    m = .left (.log (.drifted want.kind want.key (detectDrift want live))) ∨
      m = .left (.count (.drifted want.kind)) := by
  unfold driftMoves at h
  split at h
  · simpa using h
  · cases h

/-- What ensuring a dependent can look like, and how it then ends. -/
inductive Ensured (policy : DriftPolicy) (want : Dependent) : List Move → Outcome → Prop where
  | found (live : Dependent) :
      Ensured policy want
        (.asked (.get want.kind want.key) (.ok live) :: driftMoves policy want live)
        .alreadyExists
  | unseen (e : StoreError) (he : e.isNotFound = false) :
      Ensured policy want [.asked (.get want.kind want.key) (.error e)] (.lookupFailed e)
  | created (target : String) :
      Ensured policy want
        [.asked (.get want.kind want.key) (.error (.notFound target)),
          .asked (.create want) (.ok ()), .left (.log (.created want.kind want.key)),
          .left (.count (.created want.kind))]
        .created
  | outrun (target target' : String) :
      Ensured policy want
        [.asked (.get want.kind want.key) (.error (.notFound target)),
          .asked (.create want) (.error (.alreadyExists target'))]
        .createConflict
  | refused (target : String) (e : StoreError) (he : e.isAlreadyExists = false) :
      Ensured policy want
        [.asked (.get want.kind want.key) (.error (.notFound target)),
          .asked (.create want) (.error e)]
        (.createFailed e)

theorem StoreError.isNotFound_iff {e : StoreError} :
    e.isNotFound = true ↔ ∃ target, e = .notFound target := by
  cases e <;> simp [isNotFound]

theorem StoreError.isAlreadyExists_iff {e : StoreError} :
    e.isAlreadyExists = true ↔ ∃ target, e = .alreadyExists target := by
  cases e <;> simp [isAlreadyExists]

/-- Traces do not touch the store. -/
theorem along_driftMoves {σ : Type} {answers : σ → (c : Call) → c.Result → σ → Prop}
    {policy : DriftPolicy} {want live : Dependent} {ms : List Move} {s t : σ} :
    Along answers s (driftMoves policy want live ++ ms) t ↔ Along answers s ms t := by
  by_cases h : policy = .report ∧ detectDrift want live ≠ []
  · rw [driftMoves, if_pos h]
    exact Iff.rfl
  · rw [driftMoves, if_neg h]
    exact Iff.rfl

/-- A report of differences leaves its traces and goes on. -/
theorem course_reportDrift {α : Type} {policy : DriftPolicy} {want live : Dependent}
    {rest : Program α} {ms : List Move} {a : α} :
    (reportDrift policy want live rest).Course ms a ↔
      ∃ tail, ms = driftMoves policy want live ++ tail ∧ rest.Course tail a := by
  by_cases h : policy = .report ∧ detectDrift want live ≠ []
  · rw [reportDrift, driftMoves, if_pos h, if_pos h]
    constructor
    · rintro ⟨tail, rfl, tail', rfl, hrest⟩
      exact ⟨tail', rfl, hrest⟩
    · rintro ⟨tail, rfl, hrest⟩
      exact ⟨_, rfl, tail, rfl, hrest⟩
  · rw [reportDrift, driftMoves, if_neg h, if_neg h]
    simp

/-- Ensuring a dependent can look like this only. -/
theorem ensured_of_course {deadline : Instant} {policy : DriftPolicy} {want : Dependent}
    {ms : List Move} {o : Outcome}
    (h : (ensure deadline policy want).Course ms o) : Ensured policy want ms o := by
  obtain ⟨looked, tail, rfl, h⟩ := h
  rcases looked with e | live
  · cases he : e.isNotFound with
    | false =>
      rw [settleLookup, if_neg (by simp [he])] at h
      obtain ⟨rfl, rfl⟩ := h
      exact .unseen e he
    | true =>
      rw [settleLookup, if_pos he] at h
      -- only a lookup that finds nothing is followed by a creation
      obtain ⟨target, rfl⟩ := StoreError.isNotFound_iff.1 he
      obtain ⟨made, tail, rfl, h⟩ := h
      rcases made with e' | ⟨⟩
      · obtain ⟨rfl, rfl⟩ := h
        cases he' : e'.isAlreadyExists with
        | false => exact .refused target e' he'
        | true =>
          obtain ⟨target', rfl⟩ := StoreError.isAlreadyExists_iff.1 he'
          exact .outrun target target'
      · obtain ⟨_, rfl, _, rfl, rfl, rfl⟩ := h
        exact .created target
  · obtain ⟨tail, rfl, rfl, rfl⟩ := course_reportDrift.1 h
    rw [List.append_nil]
    exact .found live

/-- Each of these courses does occur, for some results of its calls. -/
theorem course_of_ensured {deadline : Instant} {policy : DriftPolicy} {want : Dependent}
    {ms : List Move} {o : Outcome} (h : Ensured policy want ms o) :
    (ensure deadline policy want).Course ms o := by
  cases h with
  | found live =>
    exact ⟨.ok live, _, rfl, course_reportDrift.2 ⟨[], (List.append_nil _).symm, rfl, rfl⟩⟩
  | unseen e he =>
    refine ⟨.error e, [], rfl, ?_⟩
    rw [settleLookup, if_neg (by simp [he])]
    exact ⟨rfl, rfl⟩
  | created target => exact ⟨_, _, rfl, .ok (), _, rfl, _, rfl, _, rfl, rfl, rfl⟩
  | outrun target target' => exact ⟨_, _, rfl, _, _, rfl, rfl, rfl⟩
  | refused target e he =>
    refine ⟨_, _, rfl, .error e, [], rfl, ?_⟩
    rw [settleCreate, he]
    exact ⟨rfl, rfl⟩

/-! ## One dependent after the other -/

/-- What ensuring dependents in order can look like, and how the pass then ends. -/
inductive Series (policy : DriftPolicy) (key : ObjectKey) :
    List Dependent → List Move → PassEnd → Prop where
  | nil : Series policy key [] [] (.ok .done)
  | found {want : Dependent} {rest : List Dependent} {ms : List Move} {result : PassEnd}
      (live : Dependent) (tail : Series policy key rest ms result) :
      Series policy key (want :: rest)
        (.asked (.get want.kind want.key) (.ok live) :: (driftMoves policy want live ++ ms)) result
  | unseen {want : Dependent} {rest : List Dependent} (e : StoreError) (he : e.isNotFound = false) :
      Series policy key (want :: rest)
        [.asked (.get want.kind want.key) (.error e), .left (.count (.failed want.kind .lookup))]
        (.error (.lookup want.kind want.key.text e))
  | created {want : Dependent} {rest : List Dependent} (target : String) :
      Series policy key (want :: rest)
        [.asked (.get want.kind want.key) (.error (.notFound target)),
          .asked (.create want) (.ok ()), .left (.log (.created want.kind want.key)),
          .left (.count (.created want.kind)), .left (.log (.createdFor want.kind key))]
        (.ok .requeue)
  | outrun {want : Dependent} {rest : List Dependent} (target target' : String) :
      Series policy key (want :: rest)
        [.asked (.get want.kind want.key) (.error (.notFound target)),
          .asked (.create want) (.error (.alreadyExists target'))]
        (.ok .requeue)
  | refused {want : Dependent} {rest : List Dependent} (target : String) (e : StoreError)
      (he : e.isAlreadyExists = false) :
      Series policy key (want :: rest)
        [.asked (.get want.kind want.key) (.error (.notFound target)),
          .asked (.create want) (.error e), .left (.count (.failed want.kind .create))]
        (.error (.create want.kind want.key.text e))

/-- The moves of a series that begins with a dependent that is found: the lookup, the report of its
differences, and the moves of the rest. -/
theorem mem_found {policy : DriftPolicy} {want live : Dependent} {ms : List Move} {m : Move}
    (h : m ∈ .asked (.get want.kind want.key) (.ok live) :: (driftMoves policy want live ++ ms)) :
    m = .asked (.get want.kind want.key) (.ok live) ∨
      m = .left (.log (.drifted want.kind want.key (detectDrift want live))) ∨
      m = .left (.count (.drifted want.kind)) ∨ m ∈ ms := by
  rcases List.mem_cons.1 h with h | h
  · exact .inl h
  · rcases List.mem_append.1 h with h | h
    · rcases mem_driftMoves h with h | h
      · exact .inr (.inl h)
      · exact .inr (.inr (.inl h))
    · exact .inr (.inr (.inr h))

/-- Ensuring dependents in order can look like this only. -/
theorem series_of_course {deadline : Instant} {policy : DriftPolicy} {key : ObjectKey}
    {wants : List Dependent} {ms : List Move} {result : PassEnd}
    (h : (converge deadline policy key wants).Course ms result) :
    Series policy key wants ms result := by
  induction wants generalizing ms with
  | nil =>
    obtain ⟨rfl, rfl⟩ := h
    exact .nil
  | cons want rest ih =>
    obtain ⟨first, o, second, rfl, hfirst, hsecond⟩ := Program.course_bind.1 h
    -- the outcome of the first dependent decides how the pass goes on behind it
    cases ensured_of_course hfirst with
    | found live =>
      exact .found live (ih hsecond)
    | unseen e he =>
      obtain ⟨_, rfl, rfl, rfl⟩ := hsecond
      exact .unseen e he
    | created target =>
      obtain ⟨_, rfl, rfl, rfl⟩ := hsecond
      exact .created target
    | outrun target target' =>
      obtain ⟨rfl, rfl⟩ := hsecond
      exact .outrun target target'
    | refused target e he =>
      obtain ⟨_, rfl, rfl, rfl⟩ := hsecond
      exact .refused target e he

/-- Each of these series does occur. -/
theorem course_of_series {deadline : Instant} {policy : DriftPolicy} {key : ObjectKey}
    {wants : List Dependent} {ms : List Move} {result : PassEnd}
    (h : Series policy key wants ms result) :
    (converge deadline policy key wants).Course ms result := by
  induction h with
  | nil => exact ⟨rfl, rfl⟩
  | found live tail ih =>
    exact Program.course_bind.2 ⟨_, _, _, rfl, course_of_ensured (.found live), ih⟩
  | unseen e he =>
    exact Program.course_bind.2
      ⟨_, _, _, rfl, course_of_ensured (.unseen e he), [], rfl, rfl, rfl⟩
  | created target =>
    exact Program.course_bind.2
      ⟨_, _, _, rfl, course_of_ensured (.created target), [], rfl, rfl, rfl⟩
  | outrun target target' =>
    exact Program.course_bind.2
      ⟨_, _, _, rfl, course_of_ensured (.outrun target target'), rfl, rfl⟩
  | refused target e he =>
    exact Program.course_bind.2
      ⟨_, _, _, rfl, course_of_ensured (.refused target e he), [], rfl, rfl, rfl⟩

/-! ## A whole pass -/

/-- The dependents that are desired, in the order of convergence. -/
def PerKind.inOrder (desired : PerKind Dependent) : List Dependent :=
  Kind.ordered.map desired.get

/-- What a pass can look like, and how it then ends. -/
inductive PassCourse (policy : DriftPolicy) (key : ObjectKey) : List Move → PassEnd → Prop where
  | absent (target : String) :
      PassCourse policy key [.asked (.getInstance key) (.error (.notFound target))] (.ok .done)
  | unfetched (e : StoreError) (he : e.isNotFound = false) :
      PassCourse policy key
        [.asked (.getInstance key) (.error e), .left (.log (.fetchFailed key e))]
        (.error (.store e))
  | terminating (i : Instance) (hi : i.metadata.deletionTimestamp.isSome) :
      PassCourse policy key [.asked (.getInstance key) (.ok i), .left (.log (.terminating key))]
        (.ok .done)
  | malformed (i : Instance) (cause : Malformed)
      (hi : i.metadata.deletionTimestamp = none) (hd : desiredState i = .error cause) :
      PassCourse policy key [.asked (.getInstance key) (.ok i)] (.error (.malformed cause))
  | served (i : Instance) (desired : PerKind Dependent) {ms : List Move} {result : PassEnd}
      (hi : i.metadata.deletionTimestamp = none) (hd : desiredState i = .ok desired)
      (hs : Series policy key desired.inOrder ms result) :
      PassCourse policy key (.asked (.getInstance key) (.ok i) :: ms) result

/-- A pass can look like this only. -/
theorem passCourse_of_course {deadline : Instant} {policy : DriftPolicy} {key : ObjectKey}
    {ms : List Move} {result : PassEnd}
    (h : (pass deadline policy key).Course ms result) :
    PassCourse policy key ms result := by
  obtain ⟨fetched, tail, rfl, h⟩ := h
  rcases fetched with e | i
  · cases he : e.isNotFound with
    | false =>
      rw [settleFetch, if_neg (by simp [he])] at h
      obtain ⟨_, rfl, rfl, rfl⟩ := h
      exact .unfetched e he
    | true =>
      rw [settleFetch, if_pos he] at h
      obtain ⟨rfl, rfl⟩ := h
      obtain ⟨target, rfl⟩ := StoreError.isNotFound_iff.1 he
      exact .absent target
  · rw [settleFetch, convergeInstance] at h
    -- the instance is there: on its way out, without a desired state, or to be served
    by_cases hi : i.metadata.deletionTimestamp.isSome
    · rw [if_pos hi] at h
      obtain ⟨_, rfl, rfl, rfl⟩ := h
      exact .terminating i hi
    · rw [if_neg hi] at h
      have hnone : i.metadata.deletionTimestamp = none := by simpa using hi
      cases hd : desiredState i with
      | error cause =>
        rw [hd] at h
        obtain ⟨rfl, rfl⟩ := h
        exact .malformed i cause hnone hd
      | ok desired =>
        rw [hd] at h
        exact .served i desired hnone hd (series_of_course h)

/-- Each of these courses of a pass does occur. -/
theorem course_of_passCourse {deadline : Instant} {policy : DriftPolicy} {key : ObjectKey}
    {ms : List Move} {result : PassEnd} (h : PassCourse policy key ms result) :
    (pass deadline policy key).Course ms result := by
  cases h with
  | absent target => exact ⟨_, _, rfl, rfl, rfl⟩
  | unfetched e he =>
    refine ⟨_, _, rfl, ?_⟩
    rw [settleFetch, if_neg (by simp [he])]
    exact ⟨_, rfl, rfl, rfl⟩
  | terminating i hi =>
    refine ⟨_, _, rfl, ?_⟩
    rw [settleFetch, convergeInstance, if_pos hi]
    exact ⟨_, rfl, rfl, rfl⟩
  | malformed i cause hi hd =>
    refine ⟨_, _, rfl, ?_⟩
    rw [settleFetch, convergeInstance, if_neg (by simp [hi]), hd]
    exact ⟨rfl, rfl⟩
  | served i desired hi hd hs =>
    refine ⟨_, _, rfl, ?_⟩
    rw [settleFetch, convergeInstance, if_neg (by simp [hi]), hd]
    exact course_of_series hs

/-- The courses of a pass. They are the same with every deadline, since a call that is given up is a
call that failed. -/
theorem course_pass_iff {deadline : Instant} {policy : DriftPolicy} {key : ObjectKey}
    {ms : List Move} {result : PassEnd} :
    (pass deadline policy key).Course ms result ↔ PassCourse policy key ms result :=
  ⟨passCourse_of_course, course_of_passCourse⟩

/-! ## Passes under way -/

section several

variable {α : Type} {P : α → Prop} {before after : List α} {a b : α}

/-- What holds of several things holds of those that are left when one is taken away. -/
theorem forall_remove (h : ∀ c ∈ before ++ a :: after, P c) : ∀ c ∈ before ++ after, P c := by
  intro c hc
  rcases List.mem_append.1 hc with hc | hc
  · exact h c (List.mem_append_left _ hc)
  · exact h c (List.mem_append_right _ (List.mem_cons_of_mem _ hc))

/-- What holds of several things still does if one is replaced by another of which it holds. -/
theorem forall_replace (h : ∀ c ∈ before ++ a :: after, P c) (hb : P b) :
    ∀ c ∈ before ++ b :: after, P c := by
  intro c hc
  rcases List.mem_append.1 hc with hc | hc
  · exact h c (List.mem_append_left _ hc)
  · rcases List.mem_cons.1 hc with rfl | hc
    · exact hb
    · exact h c (List.mem_append_right _ (List.mem_cons_of_mem _ hc))

end several

/-- A pass under way: the moves that it has made, and what is left of its program. -/
structure Underway where
  policy : DriftPolicy
  key : ObjectKey
  past : List Move := []
  rest : Program PassEnd

namespace Underway

/-- A pass that has not made a move. -/
def start (deadline : Instant) (policy : DriftPolicy) (key : ObjectKey) : Underway :=
  { policy, key, rest := pass deadline policy key }

/-- The pass after a move, with what is then left of its program. -/
def advance (p : Underway) (m : Move) (rest : Program PassEnd) : Underway :=
  { p with past := p.past ++ [m], rest }

/-- The pass has not made a move. -/
def Fresh (p : Underway) : Prop := ∃ deadline, p = start deadline p.policy p.key

/-- Whatever a pass goes on to do, with the moves that it has made this is a course of it. -/
def Sound (p : Underway) : Prop :=
  ∀ ms result, p.rest.Course ms result → PassCourse p.policy p.key (p.past ++ ms) result

/-- A pass that has not made a move has all its courses before it. -/
theorem sound_start (deadline : Instant) (policy : DriftPolicy) (key : ObjectKey) :
    (start deadline policy key).Sound := by
  intro ms result h
  exact passCourse_of_course h

/-- With a result for its call the pass goes on along a course of it. -/
theorem Sound.asked {p : Underway} (hp : p.Sound) {c : Call} {rest : c.Result → Program PassEnd}
    {deadline : Instant} (h : p.rest = .ask deadline c rest) (result : c.Result) :
    (p.advance (.asked c result) (rest result)).Sound := by
  intro ms a hcourse
  have hwhole := hp (.asked c result :: ms) a (by rw [h]; exact ⟨result, ms, rfl, hcourse⟩)
  show PassCourse p.policy p.key (p.past ++ [.asked c result] ++ ms) a
  rw [List.append_assoc]
  exact hwhole

/-- Behind a trace the pass goes on along a course of it. -/
theorem Sound.left {p : Underway} (hp : p.Sound) {e : Effect} {rest : Program PassEnd}
    (h : p.rest = .emit e rest) : (p.advance (.left e) rest).Sound := by
  intro ms a hcourse
  have hwhole := hp (.left e :: ms) a (by rw [h]; exact ⟨ms, rfl, hcourse⟩)
  show PassCourse p.policy p.key (p.past ++ [.left e] ++ ms) a
  rw [List.append_assoc]
  exact hwhole

/-- A pass under way can be brought to an end. -/
theorem Sound.exists_passCourse {p : Underway} (hp : p.Sound) :
    ∃ ms result, p.rest.Course ms result ∧ PassCourse p.policy p.key (p.past ++ ms) result := by
  obtain ⟨ms, result, hrest⟩ := p.rest.exists_course
  exact ⟨ms, result, hrest, hp ms result hrest⟩

/-- A pass that has ended has made the moves of a course. -/
theorem Sound.passCourse_of_done {p : Underway} (hp : p.Sound) {result : PassEnd}
    (h : p.rest = .done result) : PassCourse p.policy p.key p.past result := by
  have hcourse := hp [] result (by rw [h]; exact ⟨rfl, rfl⟩)
  rw [List.append_nil] at hcourse
  exact hcourse

end Underway

end InstanceOperator
