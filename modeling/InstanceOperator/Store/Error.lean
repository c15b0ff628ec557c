import InstanceOperator.Object.Instance
import InstanceOperator.Text.Quoted

/-!
# Store errors

What can go wrong between the operator and the store that holds its objects. A `ClientError` is a
failure of the conversation with the cluster; a `StoreError` classifies it by what it means for the
object that the call was about.
-/

namespace InstanceOperator

/-- The body with which the cluster refuses a request. -/
structure Refusal where
  status : String
  message : String := ""
  reason : String := ""
  code : UInt16
deriving DecidableEq, Repr

namespace Refusal

def code? (j : Json) : Option UInt16 :=
  (j.nat? (UInt16.size - 1)).map UInt16.ofNat

/-- A text member that is empty if it is absent. -/
def text? (name : String) (ms : List (String × Json)) : Option String :=
  match Json.single? name ms with
  | some none => some ""
  | some (some j) => j.str?
  | none => none

/-- Read a refusal, from members or by position. -/
def ofJson? : Json → Option Refusal
  | .obj ms => do
    let status ← (← (← Json.single? "status" ms).map Json.str?)
    let message ← text? "message" ms
    let reason ← text? "reason" ms
    let code ← (← (← Json.single? "code" ms).map code?)
    return ⟨status, message, reason, code⟩
  | .arr [.str status, .str message, .str reason, code] => do
    return { status, message, reason, code := ← code? code }
  | _ => none

def text (r : Refusal) : String :=
  r.message ++ ": " ++ r.reason ++ " (ErrorResponse \x7b status: " ++ Text.quoted r.status
    ++ ", message: " ++ Text.quoted r.message ++ ", reason: " ++ Text.quoted r.reason
    ++ ", code: " ++ toString r.code.toNat ++ " \x7d)"

end Refusal

/-- A failure of the conversation with the cluster. -/
inductive ClientError where
  /-- The cluster refused the request. -/
  | refused (refusal : Refusal)
  /-- The request was not carried out. -/
  | transport (reason : String)
  /-- The body of the answer does not decode. -/
  | undecodable (reason : String)
  /-- The body of the answer is not a text. -/
  | notText (reason : String)
  /-- The request cannot be put into words. -/
  | unsendable (reason : String)
  /-- The stream of events broke. -/
  | events (reason : String)
  /-- A line of the stream of events is too long. -/
  | lineTooLong
  /-- The cluster wants an encrypted connection, which is not available. -/
  | tlsRequired
deriving DecidableEq, Repr

def ClientError.message : ClientError → String
  | .refused refusal => "ApiError: " ++ refusal.text
  | .transport reason => "ServiceError: " ++ reason
  | .undecodable reason => "Error deserializing response: " ++ reason
  | .notText reason => "UTF-8 Error: " ++ reason
  | .unsendable reason => "Failed to build request: " ++ reason
  | .events reason => "Error reading events stream: " ++ reason
  | .lineTooLong => "Error finding newline character"
  | .tlsRequired => "TLS required but no TLS stack selected"

/-- Why a call to the store fails. -/
inductive StoreError where
  /-- The object does not exist. -/
  | notFound (target : String)
  /-- The object to be created exists already. -/
  | alreadyExists (target : String)
  /-- The store refuses the object for good. -/
  | invalid (reason : String)
  /-- The store cannot serve the call now. -/
  | unavailable (reason : String)
  /-- The call was given up because time ran out. -/
  | cancelled (reason : String)
  /-- Any other failure of the client. -/
  | client (cause : ClientError)
deriving DecidableEq, Repr

namespace StoreError

def message : StoreError → String
  | .notFound target => "Not found: " ++ target
  | .alreadyExists target => "Already exists: " ++ target
  | .invalid reason => "Invalid object: " ++ reason
  | .unavailable reason => "Store unavailable: " ++ reason
  | .cancelled reason => "Cancelled: " ++ reason
  | .client cause => "Kubernetes error: " ++ cause.message

/-- Whether the object does not exist. -/
def isNotFound : StoreError → Bool
  | .notFound _ => true
  | _ => false

/-- Whether a creation came too late. -/
def isAlreadyExists : StoreError → Bool
  | .alreadyExists _ => true
  | _ => false

/-- Whether the same call may succeed later. -/
def isTransient : StoreError → Bool
  | .invalid _ => false
  | _ => true

/-- Classify a client error by the code of the cluster's refusal. -/
def ofClient (cause : ClientError) (target : String) : StoreError :=
  match cause with
  | .refused refusal =>
    let code := refusal.code.toNat
    if code = 404 then .notFound target
    else if code = 409 then .alreadyExists target
    else if code = 400 ∨ code = 422 then .invalid (target ++ ": " ++ cause.message)
    else if code = 429 ∨ (500 ≤ code ∧ code ≤ 599) then
      .unavailable (target ++ ": " ++ cause.message)
    else .client cause
  | _ => .client cause

end StoreError

end InstanceOperator
