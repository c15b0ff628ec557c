import InstanceOperator.Proofs.Dispatch.Retry
import InstanceOperator.Proofs.Pass.Sequel
import InstanceOperator.Proofs.Store.Server

/-!
# Where replies lead

A call to a cluster may be replied to with any status and any bytes, or not at all. A reply that
fails stands for a code (`Reply.code?`), and the code alone tells the failures apart: what the error
of the call is, whether the pass ends with it, whether the instance is then left alone until it
changes, and whether a dependent that was looked up is created. Whatever fails without a code is
tried again later.

* `Reply.code?`: the code that a reply stands for.
* `Call.Sorts`: what a call comes to, by the code of its reply.
* `Call.Routes`: what follows for the pass, and for its instance.
* `replies_lead_by_code`: the result, for every reply to every call.
-/

namespace InstanceOperator

/-! ## Codes -/

/-- The code that a failing reply stands for: the one that its body states if it is a refusal of the
server's own, and the status otherwise. A reply that does not fail stands for none, nor does one
whose body is not a text. -/
def Reply.code? (reader : BodyReader) : Reply → Option Nat
  | .failed _ => none
  | .answered status body =>
    if Http.isFailure status ∧ body.text?.isSome then
      match reader.refusal? body with
      | some refusal => some refusal.code.toNat
      | none => some status
    else none

/-- The code that a body states goes before the status. -/
example : (Reply.answered 500 (.json (statusBody 422 "" "Invalid"))).code? .whole = some 422 := by
  rfl

/-- A code that says that the object will be refused again. -/
def Refuses (n : Nat) : Prop := n = 400 ∨ n = 422

/-- A code that says that the call may be served later. -/
def Defers (n : Nat) : Prop := n = 429 ∨ (500 ≤ n ∧ n ≤ 599)

/-- The error is the one that goes with a code. -/
def StoreError.Suits (n : Nat) : StoreError → Prop
  | .notFound _ => n = 404
  | .alreadyExists _ => n = 409
  | .invalid _ => Refuses n
  | .unavailable _ => Defers n
  | .cancelled _ => False
  | .client _ => n ≠ 404 ∧ n ≠ 409 ∧ ¬ Refuses n ∧ ¬ Defers n

/-- A refusal is classified by its code, and each of the four classes takes exactly its own
codes. -/
theorem StoreError.suits_ofClient (refusal : Refusal) (target : String) :
    (ofClient (.refused refusal) target).Suits refusal.code.toNat := by
  unfold ofClient
  dsimp only
  -- the classes are tried in this order, and no code is in two of them
  by_cases h404 : refusal.code.toNat = 404
  · rw [if_pos h404]
    exact h404
  by_cases h409 : refusal.code.toNat = 409
  · rw [if_neg h404, if_pos h409]
    exact h409
  by_cases hrefuses : refusal.code.toNat = 400 ∨ refusal.code.toNat = 422
  · rw [if_neg h404, if_neg h409, if_pos hrefuses]
    exact hrefuses
  by_cases hdefers : refusal.code.toNat = 429 ∨ 500 ≤ refusal.code.toNat ∧ refusal.code.toNat ≤ 599
  · rw [if_neg h404, if_neg h409, if_neg hrefuses, if_pos hdefers]
    exact hdefers
  · rw [if_neg h404, if_neg h409, if_neg hrefuses, if_neg hdefers]
    exact ⟨h404, h409, hrefuses, hdefers⟩

/-- No code goes with errors of two sorts. -/
theorem StoreError.Suits.sorts {n : Nat} {e : StoreError} (h : e.Suits n) :
    ((∃ target, e = .notFound target) ↔ n = 404) ∧
      ((∃ target, e = .alreadyExists target) ↔ n = 409) ∧
      ((∃ reason, e = .invalid reason) ↔ Refuses n) ∧
      ((∃ reason, e = .unavailable reason) ↔ Defers n) ∧
      ((∃ cause, e = .client cause) ↔ n ≠ 404 ∧ n ≠ 409 ∧ ¬ Refuses n ∧ ¬ Defers n) := by
  cases e <;> simp [Suits, Refuses, Defers] at h ⊢ <;> omega

/-! ## Replies -/

/-- The reply holds the object that a call is to get: it does not fail, and its body is a text that
is read as the object. -/
def Reply.Holds (reader : BodyReader) (c : Call) (a : c.Value) (r : Reply) : Prop :=
  ∃ status body, r = .answered status body ∧ Http.isFailure status = false ∧
    body.text?.isSome ∧ reader.object? body c = some a

/-- The reply fails a call, and stands for no code. -/
inductive Reply.Stray (reader : BodyReader) (c : Call) : Reply → Prop where
  | failed (reason : String) : Stray reader c (.failed reason)
  | notText {status : Nat} {body : Body} (h : body.text? = none) :
      Stray reader c (.answered status body)
  | undecodable {status : Nat} {body : Body} (hok : Http.isFailure status = false)
      (h : reader.object? body c = none) : Stray reader c (.answered status body)

section replies

variable {reader : BodyReader} {c : Call} {r : Reply}

/-- A reply stands for a code, or fails without one, or holds the object of the call. -/
theorem Reply.exists_code_or_stray_or_holds (reader : BodyReader) (c : Call) (r : Reply) :
    (∃ n, r.code? reader = some n) ∨ r.Stray reader c ∨ ∃ a, r.Holds reader c a := by
  cases r with
  | failed reason => exact .inr (.inl (.failed reason))
  | answered status body =>
    cases htext : body.text? with
    | none => exact .inr (.inl (.notText htext))
    | some text =>
      cases hfailure : Http.isFailure status with
      | true =>
        left
        rw [code?, if_pos ⟨hfailure, by rw [htext]; rfl⟩]
        cases reader.refusal? body with
        | some refusal => exact ⟨_, rfl⟩
        | none => exact ⟨_, rfl⟩
      | false =>
        right
        cases hread : reader.object? body c with
        | none => exact .inl (.undecodable hfailure hread)
        | some a => exact .inr ⟨a, status, body, rfl, hfailure, by rw [htext]; rfl, hread⟩

/-- A stray reply has no code that could be taken for one of a refusal. -/
theorem Reply.Stray.code? (h : r.Stray reader c) : r.code? reader = none := by
  cases h with
  | failed reason => rfl
  | notText h => simp [Reply.code?, h]
  | undecodable hok h => simp [Reply.code?, hok]

theorem Reply.Holds.code? {a : c.Value} (h : r.Holds reader c a) : r.code? reader = none := by
  obtain ⟨status, body, rfl, hok, -⟩ := h
  simp [Reply.code?, hok]

/-- A reply that stands for a code gives a call an error that goes with it. -/
theorem Call.receive_of_code {n : Nat} (h : r.code? reader = some n) :
    ∃ e, c.receive reader r = .error e ∧ e.Suits n := by
  cases r with
  | failed reason => cases h
  | answered status body =>
    rw [Reply.code?] at h
    split at h
    · next hcode =>
      -- only the reply of a failed request whose body is a text has a code
      obtain ⟨hfailure, htext⟩ := hcode
      obtain ⟨text, htext⟩ := Option.isSome_iff_exists.1 htext
      have hreceive : c.receive reader (.answered status body) =
          .error (.ofClient (.refused (refusalOf reader status body text)) c.target) := by
        simp [receive, Reply.decode, htext, hfailure, classify]
      refine ⟨_, hreceive, ?_⟩
      have hn : (refusalOf reader status body text).code.toNat = n := by
        unfold refusalOf
        cases hrefusal : reader.refusal? body with
        | some refusal =>
          rw [hrefusal] at h
          exact Option.some.inj h
        | none =>
          -- the refusal is made up for the reply, and has its status as the code
          rw [hrefusal] at h
          cases h
          exact Refusal.toNat_ofNat_of_isFailure hfailure
      rw [← hn]
      exact StoreError.suits_ofClient _ _
    · cases h

/-- A failure without a code is passed on as it is. -/
theorem Call.receive_of_stray (h : r.Stray reader c) :
    ∃ cause, c.receive reader r = .error (.client cause) := by
  cases h with
  | failed reason => exact ⟨_, rfl⟩
  | notText h => simp [receive, Reply.decode, h, classify, StoreError.ofClient]
  | @undecodable status body hok h =>
    cases htext : body.text? with
    | none => simp [receive, Reply.decode, htext, classify, StoreError.ofClient]
    | some text => simp [receive, Reply.decode, htext, hok, h, classify, StoreError.ofClient]

theorem Call.receive_of_holds {a : c.Value} (h : r.Holds reader c a) :
    c.receive reader r = .ok a := by
  obtain ⟨status, body, rfl, hok, htext, hread⟩ := h
  obtain ⟨text, htext⟩ := Option.isSome_iff_exists.1 htext
  simp [receive, Reply.decode, htext, hok, hread, classify]

/-- A call succeeds with the object that its reply holds, and with nothing else. -/
theorem Call.receive_eq_ok_iff {a : c.Value} : c.receive reader r = .ok a ↔ r.Holds reader c a := by
  constructor
  · intro h
    rcases r.exists_code_or_stray_or_holds reader c with ⟨n, hcode⟩ | hstray | ⟨a', ha'⟩
    · obtain ⟨e, he, -⟩ := c.receive_of_code hcode
      rw [he] at h
      cases h
    · obtain ⟨cause, he⟩ := c.receive_of_stray hstray
      rw [he] at h
      cases h
    · rw [receive_of_holds ha'] at h
      cases h
      exact ha'
  · intro h
    exact receive_of_holds h

end replies

/-- What a call comes to, by the code of its reply. -/
structure Call.Sorts (reader : BodyReader) (c : Call) (r : Reply) : Prop where
  notFound : (∃ target, c.receive reader r = .error (.notFound target)) ↔ r.code? reader = some 404
  alreadyExists : (∃ target, c.receive reader r = .error (.alreadyExists target)) ↔
    r.code? reader = some 409
  invalid : (∃ reason, c.receive reader r = .error (.invalid reason)) ↔
    r.code? reader = some 400 ∨ r.code? reader = some 422
  unavailable : (∃ reason, c.receive reader r = .error (.unavailable reason)) ↔
    r.code? reader = some 429 ∨ ∃ n, r.code? reader = some n ∧ 500 ≤ n ∧ n ≤ 599
  /-- Every other failure is one of the client: a reply with another code, or without one. -/
  client : (∃ cause, c.receive reader r = .error (.client cause)) ↔
    r.Stray reader c ∨ ∃ n, r.code? reader = some n ∧ n ≠ 404 ∧ n ≠ 409 ∧ ¬ Refuses n ∧ ¬ Defers n
  /-- No reply looks like a call that was given up. -/
  cancelled : ∀ reason, c.receive reader r ≠ .error (.cancelled reason)
  ok : ∀ a, c.receive reader r = .ok a ↔ r.Holds reader c a

section sorts

variable {reader : BodyReader} {c : Call} {r : Reply}

/-- A reply with a code is sorted by this code alone. -/
theorem Call.sorts_of_code {n : Nat} (hcode : r.code? reader = some n) : c.Sorts reader r := by
  obtain ⟨e, hreceive, hsuits⟩ := c.receive_of_code hcode
  obtain ⟨hnotFound, halreadyExists, hinvalid, hunavailable, hclient⟩ := hsuits.sorts
  constructor
  · simpa [hreceive, hcode] using hnotFound
  · simpa [hreceive, hcode] using halreadyExists
  · simpa [hreceive, hcode, Refuses] using hinvalid
  · simpa [hreceive, hcode, Defers] using hunavailable
  · have hstray : ¬ r.Stray reader c := by
      intro h
      rw [h.code?] at hcode
      cases hcode
    simpa [hreceive, hcode, hstray] using hclient
  · intro reason h
    rw [hreceive] at h
    cases h
    exact hsuits
  · intro a
    exact receive_eq_ok_iff

/-- A stray reply is none of the classified failures. -/
theorem Call.sorts_of_stray (hstray : r.Stray reader c) : c.Sorts reader r := by
  obtain ⟨cause, hreceive⟩ := c.receive_of_stray hstray
  have hcode := hstray.code?
  constructor
  · simp [hreceive, hcode]
  · simp [hreceive, hcode]
  · simp [hreceive, hcode]
  · simp [hreceive, hcode]
  · simp [hreceive, hstray]
  · simp [hreceive]
  · intro a
    exact receive_eq_ok_iff

/-- A reply that holds what was asked for is no failure of any class. -/
theorem Call.sorts_of_holds {a : c.Value} (ha : r.Holds reader c a) : c.Sorts reader r := by
  have hreceive := c.receive_of_holds ha
  have hcode := ha.code?
  constructor
  · simp [hreceive, hcode]
  · simp [hreceive, hcode]
  · simp [hreceive, hcode]
  · simp [hreceive, hcode]
  · have hstray : ¬ r.Stray reader c := by
      intro h
      obtain ⟨cause, h⟩ := c.receive_of_stray h
      rw [hreceive] at h
      cases h
    simp [hreceive, hcode, hstray]
  · simp [hreceive]
  · intro a'
    exact receive_eq_ok_iff

end sorts

/-- What a call comes to goes by the code of its reply. -/
theorem Call.sorts (reader : BodyReader) (c : Call) (r : Reply) : c.Sorts reader r := by
  rcases r.exists_code_or_stray_or_holds reader c with ⟨n, hcode⟩ | hstray | ⟨a, ha⟩
  · exact sorts_of_code hcode
  · exact sorts_of_stray hstray
  · exact sorts_of_holds ha

/-! ## Passes -/

/-- A call fails its pass: it fails, no call follows it, and the pass ends with an error. -/
def Call.FailsPass (c : Call) (result : c.Result) (after : List Move) (finish : PassEnd) : Prop :=
  (∃ e, result = .error e) ∧ after.filterMap Move.call? = [] ∧ ∃ cause, finish = .error cause

/-- The code of a failure that does not fail a pass. -/
def Call.toleratedCode : Call → Nat
  | .create _ => 409
  | _ => 404

/-- What a reply to a call leads to, where the pass has made the moves `after` since. -/
structure Call.Routes (reader : BodyReader) (c : Call) (r : Reply) (key : ObjectKey)
    (after : List Move) (finish : PassEnd) : Prop where
  /-- A failure fails the pass, but for the one code that it tolerates. -/
  fails : c.FailsPass (c.receive reader r) after finish ↔
    (∃ e, c.receive reader r = .error e) ∧ r.code? reader ≠ some c.toleratedCode
  /-- The instance of a pass that was failed is left alone if the code says that the object will be
  refused again. -/
  givesUp : c.FailsPass (c.receive reader r) after finish → ∀ (b : Books) (i : Instance),
    (b.settlePass i key finish).1 = .awaitChange ↔
      r.code? reader = some 400 ∨ r.code? reader = some 422
  /-- In every other case the instance is looked at again, later with every failure. -/
  requeues : c.FailsPass (c.receive reader r) after finish →
    ¬ (r.code? reader = some 400 ∨ r.code? reader = some 422) →
    ∀ (b : Books) (i : Instance),
      (b.settlePass i key finish).1 = .requeue (b.tracker.nextDelay i.failureKey) ∧
        (b.settlePass i key finish).2.tracker = b.tracker.fail i.failureKey
  /-- A lookup is followed by the creation of what was looked up exactly if its code is 404. -/
  creates : ∀ kind k, c = .get kind k →
    ((∃ d made, d.kind = kind ∧ d.key = k ∧ .asked (.create d) made ∈ after) ↔
      r.code? reader = some 404)

section routes

variable {reader : BodyReader} {c : Call} {r : Reply} {e : StoreError}

/-- A pass tolerates the failures of one code. -/
theorem Call.tolerates_iff (h : c.receive reader r = .error e) :
    c.Tolerates e ↔ r.code? reader = some c.toleratedCode := by
  -- what a pass tolerates is an error of one sort, and sorts go by codes
  have hsorts := c.sorts reader r
  have hnotFound : e.isNotFound = true ↔ r.code? reader = some 404 := by
    rw [← hsorts.notFound, h, StoreError.isNotFound_iff]
    simp only [Except.error.injEq]
  have halreadyExists : e.isAlreadyExists = true ↔ r.code? reader = some 409 := by
    rw [← hsorts.alreadyExists, h, StoreError.isAlreadyExists_iff]
    simp only [Except.error.injEq]
  cases c with
  | getInstance key => exact hnotFound
  | get kind key => exact hnotFound
  | create d => exact halreadyExists

/-- Another attempt may help unless the code says that the object will be refused again. -/
theorem Call.isRetryable_fault_iff (h : c.receive reader r = .error e) :
    (c.fault e).isRetryable = false ↔ r.code? reader = some 400 ∨ r.code? reader = some 422 := by
  rw [← (c.sorts reader r).invalid, h, isRetryable_fault, StoreError.isTransient_eq_false_iff]
  simp only [Except.error.injEq]

variable {deadline : Instant} {policy : DriftPolicy} {key : ObjectKey} {before after : List Move}
  {finish : PassEnd}

/-- Behind a failure that its pass does not tolerate there is no call, and the error of the pass
names the call. -/
theorem Call.fails_of_not_tolerates
    (hcourse : (pass deadline policy key).Course
      (before ++ .asked c (c.receive reader r) :: after) finish)
    (h : c.receive reader r = .error e) (he : ¬ c.Tolerates e) :
    after.filterMap Move.call? = [] ∧ finish = .error (c.fault e) := by
  obtain ⟨rest, hsequel, hrest⟩ := (pass_behind deadline policy key).of_course hcourse
  exact (hsequel.fails e h he).of_course hrest

/-- A failure that its pass tolerates does not fail it. -/
theorem Call.not_failsPass_of_tolerates
    (hcourse : (pass deadline policy key).Course
      (before ++ .asked c (c.receive reader r) :: after) finish)
    (h : c.receive reader r = .error e) (he : c.Tolerates e) :
    ¬ c.FailsPass (c.receive reader r) after finish := by
  rintro ⟨-, hnocall, cause, rfl⟩
  obtain ⟨rest, hsequel, hrest⟩ := (pass_behind deadline policy key).of_course hcourse
  have hrecovers := hsequel.recovers e h he
  cases c with
  | getInstance k => cases (Program.EndsWith.of_course hrecovers hrest).2
  | get kind k =>
    obtain ⟨d, want, answer, rfl, -, -⟩ := hrecovers
    obtain ⟨made, tail, rfl, -⟩ := hrest
    cases hnocall
  | create d => cases (Program.EndsWith.of_course hrecovers hrest).2

/-- A call fails its pass unless it succeeds or fails with the one code that its
pass goes on with. -/
theorem Call.failsPass_iff
    (hcourse : (pass deadline policy key).Course
      (before ++ .asked c (c.receive reader r) :: after) finish) :
    c.FailsPass (c.receive reader r) after finish ↔
      (∃ e, c.receive reader r = .error e) ∧ r.code? reader ≠ some c.toleratedCode := by
  constructor
  · intro hfails
    obtain ⟨e, h⟩ := hfails.1
    refine ⟨⟨e, h⟩, ?_⟩
    intro hcode
    exact not_failsPass_of_tolerates hcourse h ((tolerates_iff h).2 hcode) hfails
  · -- a code that is not the tolerated one is a failure that is not tolerated
    rintro ⟨⟨e, h⟩, hcode⟩
    obtain ⟨hnocall, hfinish⟩ :=
      fails_of_not_tolerates hcourse h (fun he => hcode ((tolerates_iff h).1 he))
    exact ⟨⟨e, h⟩, hnocall, c.fault e, hfinish⟩

/-- A pass that a call has failed ends with an error that names the call. -/
theorem Call.FailsPass.finish_eq
    (hcourse : (pass deadline policy key).Course
      (before ++ .asked c (c.receive reader r) :: after) finish)
    (hfails : c.FailsPass (c.receive reader r) after finish) :
    ∃ e, c.receive reader r = .error e ∧ finish = .error (c.fault e) := by
  obtain ⟨e, h⟩ := hfails.1
  have he : ¬ c.Tolerates e := fun he => not_failsPass_of_tolerates hcourse h he hfails
  exact ⟨e, h, (fails_of_not_tolerates hcourse h he).2⟩

/-- A lookup is followed by a creation of what was looked up exactly if it finds nothing. -/
theorem lookup_creates_iff {kind : Kind} {k : ObjectKey}
    (hcourse : (pass deadline policy key).Course
      (before ++ .asked (.get kind k) ((Call.get kind k).receive reader r) :: after) finish) :
    (∃ d made, d.kind = kind ∧ d.key = k ∧ .asked (.create d) made ∈ after) ↔
      r.code? reader = some 404 := by
  obtain ⟨rest, hsequel, hrest⟩ := (pass_behind deadline policy key).of_course hcourse
  constructor
  · rintro ⟨d, made, hkind, -, hmade⟩
    cases hreceive : (Call.get kind k).receive reader r with
    | ok live =>
      have hspares : Spares kind rest := hsequel.goesOn live hreceive kind k rfl
      exact absurd hkind (hspares after finish hrest d made hmade)
    | error e =>
      by_cases he : (Call.get kind k).Tolerates e
      · exact (Call.tolerates_iff hreceive).1 he
      · -- the pass has ended, but a call is made
        have hnocall := (Call.fails_of_not_tolerates hcourse hreceive he).1
        have hcall : .create d ∈ after.filterMap Move.call? :=
          List.mem_filterMap.2 ⟨_, hmade, rfl⟩
        rw [hnocall] at hcall
        cases hcall
  · intro hcode
    obtain ⟨target, hreceive⟩ := ((Call.get kind k).sorts reader r).notFound.2 hcode
    obtain ⟨d, want, answer, rfl, hkind, hkey⟩ := hsequel.recovers _ hreceive rfl
    obtain ⟨made, tail, rfl, -⟩ := hrest
    exact ⟨want, made, hkind, hkey, List.mem_cons_self⟩

end routes

/-- What a reply leads to goes by its code. -/
theorem Call.routes_of_course {reader : BodyReader} {c : Call} {r : Reply} {deadline : Instant}
    {policy : DriftPolicy} {key : ObjectKey} {before after : List Move} {finish : PassEnd}
    (hcourse : (pass deadline policy key).Course
      (before ++ .asked c (c.receive reader r) :: after) finish) :
    c.Routes reader r key after finish where
  fails := failsPass_iff hcourse
  givesUp hfails b i := by
    obtain ⟨e, h, rfl⟩ := FailsPass.finish_eq hcourse hfails
    rw [← isRetryable_fault_iff h, Books.settlePass, Books.settleFailure]
    cases (c.fault e).isRetryable <;> simp
  requeues hfails hcode b i := by
    obtain ⟨e, h, rfl⟩ := FailsPass.finish_eq hcourse hfails
    have hretry : (c.fault e).isRetryable = true := by
      rw [← isRetryable_fault_iff h] at hcode
      simpa using hcode
    rw [Books.settlePass, Books.settleFailure, if_pos hretry]
    exact ⟨rfl, rfl⟩
  creates := by
    rintro kind k rfl
    exact lookup_creates_iff hcourse

/-- Whatever a call is replied, and however bodies are read, the code of the reply decides what the
call comes to. In every course of a pass in which the call is made, it also decides whether the call
fails the pass, whether the instance is then left alone or looked at again later, and whether what
was looked up is created. -/
theorem replies_lead_by_code (reader : BodyReader) (c : Call) (r : Reply) :
    c.Sorts reader r ∧
      ∀ deadline policy key before after finish,
        (pass deadline policy key).Course
            (before ++ .asked c (c.receive reader r) :: after) finish →
          c.Routes reader r key after finish := by
  constructor
  · exact c.sorts reader r
  · intro deadline policy key before after finish hcourse
    exact c.routes_of_course hcourse

/-- A failing reply to the lookup of a deployment states the code 404, whatever its status: the pass
goes on to create the deployment. -/
theorem stated_code_leads_to_creation :
    let lookup := Call.get .deployment ⟨"prod", "mine-deployment"⟩
    let r : Reply := .answered 500 (.json (statusBody 404 "" "NotFound"))
    ∃ before after finish, (pass Instant.origin .report ⟨"prod", "mine"⟩).Course
        (before ++ .asked lookup (lookup.receive .whole r) :: after) finish ∧
      ∃ d made, d.kind = .deployment ∧ d.key = ⟨"prod", "mine-deployment"⟩ ∧
        .asked (.create d) made ∈ after := by
  intro lookup r
  have hd : desiredState (Identity.mk "mine" "prod" "u-1").bare =
      .ok (Identity.mk "mine" "prod" "u-1").dependents :=
    Identity.desiredState_bare (by decide) (by decide) (by decide) (by decide)
  have hcourse : (pass Instant.origin .report ⟨"prod", "mine"⟩).Course
      ([.asked (.getInstance ⟨"prod", "mine"⟩) (.ok (Identity.mk "mine" "prod" "u-1").bare)] ++
        .asked lookup (lookup.receive .whole r) ::
          [.asked (.create ((Identity.mk "mine" "prod" "u-1").dependent .deployment))
              (.error (.alreadyExists ""))]) (.ok .requeue) :=
    course_of_passCourse (.served _ _ rfl hd (.outrun _ _))
  exact ⟨_, _, _, hcourse,
    (((replies_lead_by_code .whole lookup r).2 _ _ _ _ _ _ hcourse).creates _ _ rfl).2 rfl⟩

end InstanceOperator
