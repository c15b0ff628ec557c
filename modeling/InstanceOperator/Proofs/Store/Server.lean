import InstanceOperator.Rehearsal.ApiServer
import InstanceOperator.Proofs.Json.Member

/-!
# Servers of a cluster

What a server of a cluster is relied on to answer, as a relation (`Answers`): an object that it
keeps is sent in any form that reads as what it keeps, and a refusal states its code. `ApiServer` is
such a server (`ApiServer.answers`). What a call makes of an answer is said once for each sort of
answer: `Call.receive_of_object`, `Call.receive_of_missing` and `Call.receive_of_taken`.
-/

namespace InstanceOperator

/-! ## Answers -/

/-- The body states a status code. -/
def Body.StatesCode (body : Body) (code : Nat) : Prop :=
  ∃ v, body.value? = some v ∧ v.get? "code" = some (.int code)

/-- The answer of a server that keeps objects by their paths, and what it keeps afterwards. -/
inductive Answers (objects : Registry String Json) :
    Request → Reply → Registry String Json → Prop where
  | found {target : Http.Target} {object : Json} {body : Body}
      (hkept : objects.get? target.path = some object) (hbody : body.value? = some object) :
      Answers objects (.fetch target) (.answered 200 body) objects
  | missing {target : Http.Target} {body : Body}
      (hfree : objects.get? target.path = none) (hbody : body.StatesCode 404) :
      Answers objects (.fetch target) (.answered 404 body) objects
  | stored {target : Http.Target} {object : Json} {body : Body}
      (hfree : objects.get? (objectPath target.path (nameOf object)) = none)
      (hbody : body.value? = some object) :
      Answers objects (.post target object) (.answered 201 body)
        (objects.insert (objectPath target.path (nameOf object)) object)
  | taken {target : Http.Target} {object kept : Json} {body : Body}
      (hkept : objects.get? (objectPath target.path (nameOf object)) = some kept)
      (hbody : body.StatesCode 409) :
      Answers objects (.post target object) (.answered 409 body) objects

theorem statesCode_statusBody (code : Nat) (message reason : String) :
    (Body.json (statusBody code message reason)).StatesCode code := by
  refine ⟨statusBody code message reason, rfl, ?_⟩
  simp [statusBody, Json.get?, Json.find?, Json.findAll]

/-- The server of the rehearsal answers as a server of a cluster does. -/
theorem ApiServer.answers (s : ApiServer) (request : Request) :
    Answers s.objects request (s.answer request).1 (s.answer request).2.objects := by
  cases request with
  | fetch target =>
    cases hkept : s.objects.get? target.path with
    | some object =>
      simp only [answer, hkept]
      exact .found hkept rfl
    | none =>
      simp only [answer, hkept]
      exact .missing hkept (statesCode_statusBody _ _ _)
  | post target object =>
    cases hkept : s.objects.get? (objectPath target.path (nameOf object)) with
    | some kept =>
      simp only [answer, Registry.contains, hkept, Option.isSome_some, if_true]
      exact .taken hkept (statesCode_statusBody _ _ _)
    | none =>
      simp only [answer, Registry.contains, hkept, Option.isSome_none]
      exact .stored hkept rfl

/-! ## Objects in replies -/

/-- A body that holds a value is a text. -/
theorem Body.text?_of_value? {body : Body} {v : Json} (h : body.value? = some v) :
    ∃ text, body.text? = some text := by
  cases body with
  | json value => exact ⟨value.write, rfl⟩
  | bytes content =>
    cases htext : String.fromUTF8? content with
    | none =>
      rw [Body.value?, htext] at h
      cases h
    | some text => exact ⟨text, htext⟩

/-- An object that reads is what the reply holds. -/
theorem Reply.decode_of_object {c : Call} {status : Nat} {body : Body} {v : Json} {a : c.Value}
    (hok : Http.isFailure status = false) (hbody : body.value? = some v)
    (hread : c.read v = some a) : (Reply.answered status body).decode .whole c = .ok a := by
  rcases Body.text?_of_value? hbody with ⟨text, htext⟩
  unfold decode
  simp [htext, hok, BodyReader.whole, hbody, hread]

/-! ## Refusals -/

/-- A status code that is read is the number that was written. -/
theorem Refusal.toNat_of_code? {n : Nat} {code : UInt16} (h : code? (.int n) = some code) :
    code.toNat = n := by
  rw [code?, Json.nat?] at h
  split at h
  · next hfits =>
    have hlt : n < UInt16.size := by
      have hle : (n : Int) ≤ (UInt16.size - 1 : Nat) := hfits.2
      have hsize : 0 < UInt16.size := by decide
      omega
    cases h
    simpa using UInt16.toNat_ofNat_of_lt' hlt
  · cases h

/-- A refusal has the code that the body states. -/
theorem Refusal.toNat_code {v : Json} {refusal : Refusal} {code : Nat}
    (h : ofJson? v = some refusal) (hcode : v.get? "code" = some (.int code)) :
    refusal.code.toNat = code := by
  cases v with
  | obj ms =>
    simp only [ofJson?, Option.bind_eq_bind, Option.bind_eq_some_iff] at h
    rcases h with ⟨-, -, -, -, status, -, message, -, reason, -, found, hsingle, read, hread,
      own, hown, hrefusal⟩
    rw [hown] at hread
    cases found with
    | none => cases hread
    | some w =>
      -- the one member of the name is the one that the body is seen to have
      have hall : Json.findAll "code" ms = [w] := Json.single?_eq_some_iff.1 hsingle
      rw [Json.get?, Json.find?, hall] at hcode
      cases hcode
      cases hrefusal
      exact toNat_of_code? (Option.some.inj hread)
  | _ => cases hcode

/-- The status of a failing reply fits into a refusal. -/
theorem Refusal.toNat_ofNat_of_isFailure {status : Nat} (h : Http.isFailure status = true) :
    (UInt16.ofNat status).toNat = status := by
  have hlt : status < UInt16.size := by
    simp only [Http.isFailure, Bool.and_eq_true, decide_eq_true_eq] at h
    have hsize : 599 < UInt16.size := by decide
    omega
  exact UInt16.toNat_ofNat_of_lt' hlt

/-- A reply that fails and states its own code stands for a refusal with this code. -/
theorem Reply.decode_of_refusal (c : Call) {status : Nat} {body : Body}
    (hfailure : Http.isFailure status = true) (hbody : body.StatesCode status) :
    ∃ refusal, (Reply.answered status body).decode .whole c = .error (.refused refusal) ∧
      refusal.code.toNat = status := by
  rcases hbody with ⟨v, hvalue, hcode⟩
  rcases Body.text?_of_value? hvalue with ⟨text, htext⟩
  refine ⟨refusalOf .whole status body text, ?_, ?_⟩
  · unfold decode
    simp [htext, hfailure]
  · have hread : BodyReader.whole.refusal? body = Refusal.ofJson? v :=
      congrArg (Option.bind · Refusal.ofJson?) hvalue
    unfold refusalOf
    rw [hread]
    cases hrefusal : Refusal.ofJson? v with
    | some refusal => exact Refusal.toNat_code hrefusal hcode
    | none => exact Refusal.toNat_ofNat_of_isFailure hfailure

/-- An object is not found if the server refuses it with code 404. -/
theorem Call.receive_of_missing (c : Call) {body : Body} (hbody : body.StatesCode 404) :
    c.receive .whole (.answered 404 body) = .error (.notFound c.target) := by
  rcases Reply.decode_of_refusal c (by decide) hbody with ⟨refusal, hdecode, hcode⟩
  rw [receive, hdecode, classify]
  simp [StoreError.ofClient, hcode]

/-- An object exists already if the server refuses it with code 409. -/
theorem Call.receive_of_taken (c : Call) {body : Body} (hbody : body.StatesCode 409) :
    c.receive .whole (.answered 409 body) = .error (.alreadyExists c.target) := by
  rcases Reply.decode_of_refusal c (by decide) hbody with ⟨refusal, hdecode, hcode⟩
  rw [receive, hdecode, classify]
  simp [StoreError.ofClient, hcode]

/-- A call gets the object that the reply holds. -/
theorem Call.receive_of_object (c : Call) {status : Nat} {body : Body} {v : Json} {a : c.Value}
    (hok : Http.isFailure status = false) (hbody : body.value? = some v)
    (hread : c.read v = some a) : c.receive .whole (.answered status body) = .ok a := by
  rw [receive, Reply.decode_of_object hok hbody hread]
  rfl

end InstanceOperator
