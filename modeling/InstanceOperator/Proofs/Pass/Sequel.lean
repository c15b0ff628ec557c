import InstanceOperator.Proofs.Pass.Journal
import InstanceOperator.Proofs.Site.Collection

/-!
# What follows a call in a pass

A pass goes on behind a call by what the call comes to. A failure ends the pass with an error that
names the call, but for one failure of each call that the pass tolerates: an object that is not
there is nothing to be done for, or is created, and one that is there already is left to whoever
came first (`Call.Tolerates`). Only a lookup that finds nothing is followed by a creation of what
it was to find.

* `Program.Behind`: what holds of the rest of a program behind each of its calls.
* `pass_behind`: how a pass goes on behind each of its calls (`Sequel`).
-/

namespace InstanceOperator

namespace Program

variable {α : Type}

/-! ## The rest of a program -/

/-- Behind each call, whatever it comes to, the rest of the program is as described. -/
def Behind (P : (c : Call) → c.Result → Program α → Prop) : Program α → Prop
  | .done _ => True
  | .emit _ rest => rest.Behind P
  | .ask _ c rest => ∀ result, P c result (rest result) ∧ (rest result).Behind P

variable {P : (c : Call) → c.Result → Program α → Prop} {p : Program α} {a b : α}

/-- What is said of the rest of a program holds of what follows a call in a course. -/
theorem Behind.of_course (h : p.Behind P) {before after : List Move} {c : Call} {result : c.Result}
    (hcourse : p.Course (before ++ .asked c result :: after) a) :
    ∃ rest, P c result rest ∧ rest.Course after a := by
  induction p generalizing before with
  | done b =>
    obtain ⟨hnil, -⟩ := hcourse
    simp at hnil
  | emit e rest ih =>
    obtain ⟨tail, hmoves, htail⟩ := hcourse
    cases before with
    | nil => cases hmoves
    | cons m before =>
      obtain ⟨-, rfl⟩ := List.cons.inj hmoves
      exact ih h htail
  | ask d c' rest ih =>
    obtain ⟨result', tail, hmoves, htail⟩ := hcourse
    cases before with
    | nil =>
      -- this is the call
      cases hmoves
      exact ⟨rest result, (h result).1, htail⟩
    | cons m before =>
      obtain ⟨-, rfl⟩ := List.cons.inj hmoves
      exact ih result' (h result').2 htail

/-- A program without calls makes none, and ends with its value. -/
theorem EndsWith.of_course (h : p.EndsWith a) {ms : List Move} (hcourse : p.Course ms b) :
    ms.filterMap Move.call? = [] ∧ b = a := by
  induction p generalizing ms with
  | done b' =>
    obtain ⟨rfl, rfl⟩ := hcourse
    exact ⟨rfl, h⟩
  | emit e rest ih =>
    obtain ⟨tail, rfl, htail⟩ := hcourse
    have hrest := ih h htail
    exact hrest
  | ask d c rest ih => exact h.elim

end Program

/-! ## Failures -/

/-- The error of a pass that a call has failed. -/
def Call.fault : Call → StoreError → OperatorError
  | .getInstance _, e => .store e
  | .get kind key, e => .lookup kind key.text e
  | .create d, e => .create d.kind d.key.text e

/-- Another attempt may help a pass exactly if it may help the call that failed it. -/
theorem Call.isRetryable_fault (c : Call) (e : StoreError) :
    (c.fault e).isRetryable = e.isTransient := by
  cases c <;> rfl

/-- The failure of a call that does not fail its pass. -/
def Call.Tolerates : Call → StoreError → Prop
  | .create _, e => e.isAlreadyExists = true
  | _, e => e.isNotFound = true

/-- How a pass goes on behind a failure that does not fail it: it is done, it creates what it did not
find, or it asks for another pass. -/
def Call.Recovers : Call → Program PassEnd → Prop
  | .getInstance _, rest => rest.EndsWith (.ok .done)
  | .get kind key, rest =>
    ∃ deadline d answer, rest = .ask deadline (.create d) answer ∧ d.kind = kind ∧ d.key = key
  | .create _, rest => rest.EndsWith (.ok .requeue)

/-- The program creates nothing of a kind. -/
def Spares (kind : Kind) (rest : Program PassEnd) : Prop :=
  ∀ ms result, rest.Course ms result → ∀ d made, .asked (.create d) made ∈ ms → d.kind ≠ kind

/-- How a pass goes on behind a call. -/
structure Sequel (c : Call) (result : c.Result) (rest : Program PassEnd) : Prop where
  fails : ∀ e, result = .error e → ¬ c.Tolerates e → rest.EndsWith (.error (c.fault e))
  recovers : ∀ e, result = .error e → c.Tolerates e → c.Recovers rest
  goesOn : ∀ v, result = .ok v → ∀ kind key, c = .get kind key → Spares kind rest

/-- A failure that is not tolerated is the end of the pass. -/
theorem Sequel.of_fault {c : Call} {e : StoreError} {rest : Program PassEnd}
    (he : ¬ c.Tolerates e) (h : rest.EndsWith (.error (c.fault e))) : Sequel c (.error e) rest where
  fails := by
    rintro e' ⟨⟩ -
    exact h
  recovers := by
    rintro e' ⟨⟩ he'
    exact absurd he' he
  goesOn := by rintro v ⟨⟩

/-- A failure that is tolerated is followed by what its call has for it. -/
theorem Sequel.of_tolerated {c : Call} {e : StoreError} {rest : Program PassEnd}
    (he : c.Tolerates e) (h : c.Recovers rest) : Sequel c (.error e) rest where
  fails := by
    rintro e' ⟨⟩ he'
    exact absurd he he'
  recovers := by
    rintro e' ⟨⟩ -
    exact h
  goesOn := by rintro v ⟨⟩

/-! ## Passes -/

/-- A report makes no call. -/
theorem reportDrift_behind {α : Type} {P : (c : Call) → c.Result → Program α → Prop}
    {policy : DriftPolicy} {want live : Dependent} {rest : Program α} (h : rest.Behind P) :
    (reportDrift policy want live rest).Behind P := by
  unfold reportDrift
  split <;> exact h

/-- Behind a dependent that was found, others may be created, but none of its kind. -/
theorem spares_converge {deadline : Instant} {policy : DriftPolicy} {key : ObjectKey}
    {want live : Dependent} {wants : List Dependent} (h : want.kind ∉ wants.map Dependent.kind) :
    Spares want.kind (reportDrift policy want live (converge deadline policy key wants)) := by
  intro ms result hcourse d made hmade hkind
  obtain ⟨tail, rfl, htail⟩ := course_reportDrift.1 hcourse
  rcases List.mem_append.1 hmade with hmade | hmade
  · rcases mem_driftMoves hmade with hmade | hmade <;> cases hmade
  · have hwant : d ∈ wants := series_creates (series_of_course htail) hmade
    exact h (hkind ▸ List.mem_map_of_mem hwant)

/-- A creation is the last call of a pass. -/
theorem settleCreate_sequel (key : ObjectKey) (want : Dependent) (rest : Program PassEnd)
    (made : Except StoreError Unit) :
    Sequel (.create want) made ((settleCreate want made).bind (settle key want rest)) ∧
      ((settleCreate want made).bind (settle key want rest)).Behind Sequel := by
  rcases made with e | ⟨⟩
  · cases he : e.isAlreadyExists with
    | true =>
      rw [settleCreate, if_pos he]
      exact ⟨.of_tolerated he rfl, trivial⟩
    | false =>
      have he' : ¬ e.isAlreadyExists = true := by simp [he]
      rw [settleCreate, if_neg he']
      exact ⟨.of_fault he' rfl, trivial⟩
  · refine ⟨⟨?_, ?_, ?_⟩, trivial⟩
    · rintro e ⟨⟩
    · rintro e ⟨⟩
    · rintro v - kind key ⟨⟩

/-- Dependents are ensured one after the other, so what is behind a lookup is a creation, an error or
the rest of them. -/
theorem converge_behind (deadline : Instant) (policy : DriftPolicy) (key : ObjectKey)
    {wants : List Dependent} (h : (wants.map Dependent.kind).Nodup) :
    (converge deadline policy key wants).Behind Sequel := by
  induction wants with
  | nil => trivial
  | cons want wants ih =>
    obtain ⟨hkind, hrest⟩ := List.nodup_cons.1 h
    intro looked
    rcases looked with e | live
    · simp only [settleLookup]
      -- of the failures of a lookup the one that finds nothing is followed by a call
      by_cases he : e.isNotFound
      · rw [if_pos he]
        exact ⟨.of_tolerated he ⟨deadline, want, _, rfl, rfl, rfl⟩, settleCreate_sequel key want _⟩
      · rw [if_neg he]
        exact ⟨.of_fault he rfl, trivial⟩
    · -- the rest is a report and the dependents to come, which are of other kinds
      simp only [settleLookup, reportDrift_bind]
      refine ⟨⟨?_, ?_, ?_⟩, reportDrift_behind (ih hrest)⟩
      · rintro e ⟨⟩
      · rintro e ⟨⟩
      · rintro v - kind key ⟨⟩
        exact spares_converge hkind

/-- A pass goes on behind each of its calls by what the call comes to. -/
theorem pass_behind (deadline : Instant) (policy : DriftPolicy) (key : ObjectKey) :
    (pass deadline policy key).Behind Sequel := by
  intro fetched
  rcases fetched with e | i
  · by_cases he : e.isNotFound
    · rw [settleFetch, if_pos he]
      exact ⟨.of_tolerated he rfl, trivial⟩
    · rw [settleFetch, if_neg he]
      exact ⟨.of_fault he rfl, trivial⟩
  · refine ⟨⟨?_, ?_, ?_⟩, ?_⟩
    · rintro e ⟨⟩
    · rintro e ⟨⟩
    · rintro v - kind key ⟨⟩
    · rw [settleFetch, convergeInstance]
      split
      · trivial
      · cases hd : desiredState i with
        | error cause => trivial
        | ok desired =>
          -- no kind comes twice, so a kind that was found is not created later
          have hkinds : (Kind.ordered.map desired.get).map Dependent.kind = Kind.ordered := by
            rw [List.map_map]
            exact List.map_id'' (kind_get_of_desiredState hd) _
          apply converge_behind
          rw [hkinds]
          exact Kind.nodup_ordered

end InstanceOperator
