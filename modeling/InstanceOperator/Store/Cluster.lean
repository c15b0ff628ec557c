import InstanceOperator.Http.Status
import InstanceOperator.Http.Target
import InstanceOperator.Json.Reader
import InstanceOperator.Json.Writer
import InstanceOperator.Store.Call

/-!
# The store of a cluster

How a call becomes a request to the server of a cluster, and what the server's reply means for the
call. Objects live at the path of their collection followed by their name; a creation is posted to
the collection.
-/

namespace InstanceOperator

/-! ## Paths -/

/-- The path of a collection, in one namespace or in all of them. -/
def collectionPath (apiPath plural : String) (ns : Option String) : String :=
  apiPath ++ (ns.map ("/namespaces/" ++ ·)).getD "" ++ "/" ++ plural

/-- The path of a collection of dependents. -/
def Kind.collection (kind : Kind) (ns : Option String) : String :=
  collectionPath kind.apiPath kind.plural ns

/-- The path of a collection of instances. -/
def instanceCollection (ns : Option String) : String :=
  collectionPath instanceApiPath instancePlural ns

/-! ## Requests -/

/-- The name under which the operator's changes are recorded. -/
def fieldManager : String := "intermine-operator"

inductive Request where
  | fetch (target : Http.Target)
  | post (target : Http.Target) (body : Json)
deriving DecidableEq

namespace Request

def method : Request → String
  | .fetch _ => "GET"
  | .post _ _ => "POST"

def target : Request → Http.Target
  | .fetch target => target
  | .post target _ => target

def contentType : Request → Option String
  | .fetch _ => none
  | .post _ _ => some "application/json"

def body : Request → Option Json
  | .fetch _ => none
  | .post _ body => some body

end Request

/-- A target that can be sent. -/
def sendable (written : String) : Except ClientError Http.Target :=
  match Http.Target.read? written with
  | some target => .ok target
  | none => .error (.unsendable "failed to build request: invalid uri character")

/-- The request for an object in a collection. -/
def fetchRequest (collection name : String) : Except ClientError Request :=
  if name = "" then
    .error (.unsendable "failed to validate request: A non-empty name is required")
  else (sendable (collection ++ "/" ++ name)).map .fetch

/-- The request that a call amounts to. -/
def Call.request : Call → Except ClientError Request
  | .getInstance key => fetchRequest (instanceCollection (some key.ns)) key.name
  | .get kind key => fetchRequest (kind.collection (some key.ns)) key.name
  | .create d =>
    -- the library begins every query with an empty parameter
    (sendable (d.kind.collection (some d.key.ns) ++ "?&fieldManager=" ++ fieldManager)).map
      fun target => .post target d.toJson

/-! ## Replies -/

inductive Body where
  | json (value : Json)
  | bytes (content : ByteArray)

namespace Body

/-- The text of a body, if it is one. -/
def text? : Body → Option String
  | .json value => some value.write
  | .bytes content => String.fromUTF8? content

/-- The value that a body holds, if it holds one. -/
def value? : Body → Option Json
  | .json value => some value
  | .bytes content => (String.fromUTF8? content).bind Json.read?

end Body

/-- What becomes of a request. -/
inductive Reply where
  | failed (reason : String)
  | answered (status : Nat) (body : Body)

/-- How a call reads the object in a reply. -/
def Call.read : (c : Call) → Json → Option c.Value
  | .getInstance _, j => Instance.ofJson? j
  | .get kind _, j => Dependent.ofJson? kind j
  | .create d, j => (Dependent.ofJson? d.kind j).map fun _ => ()

/-- How the bodies of replies are read. The client leaves this to a library, which decodes a body
while it reads it. -/
structure BodyReader where
  /-- The refusal of the server's own that a body is, if it is one. -/
  refusal? : Body → Option Refusal
  /-- What a body holds for a call, if it holds that. -/
  object? : Body → (c : Call) → Option c.Value

/-- Bodies are read as a whole value first. A library that skips the members that it does not know
also takes some bodies that are no value as a whole. -/
def BodyReader.whole : BodyReader where
  refusal? body := body.value?.bind Refusal.ofJson?
  object? body c := body.value?.bind c.read

/-- The refusal that a failing reply stands for, where `text` is the text of its body. A body that
is no refusal of the server's own is quoted in one that is made up for it. -/
def refusalOf (reader : BodyReader) (status : Nat) (body : Body) (text : String) : Refusal :=
  match reader.refusal? body with
  | some refusal => refusal
  | none =>
    { status := Http.statusText status
      message := Text.quoted text
      reason := "Failed to parse error data"
      code := UInt16.ofNat status }

/-- What a reply holds for a call, if it holds something that decodes. -/
def Reply.decode (reader : BodyReader) (r : Reply) (c : Call) : Except ClientError c.Value :=
  match r with
  | .failed reason => .error (.transport reason)
  | .answered status body =>
    -- a body that is no text is not read any further, whatever the status
    match body.text? with
    | none => .error (.notText "invalid utf-8 sequence")
    | some text =>
      if Http.isFailure status then .error (.refused (refusalOf reader status body text))
      else match reader.object? body c with
        | some a => .ok a
        | none => .error (.undecodable "the body does not hold the wanted object")

/-- Classify the failure of a call. -/
def Call.classify (c : Call) (r : Except ClientError c.Value) : c.Result :=
  match r with
  | .ok a => .ok a
  | .error e => .error (.ofClient e c.target)

/-- The result of a call that was replied to. -/
def Call.receive (reader : BodyReader) (c : Call) (r : Reply) : c.Result :=
  c.classify (r.decode reader c)

/-- The result of a call that a server serves, whose replies are read as whole values. -/
def Call.serveBy (c : Call) (server : Request → Reply) : c.Result :=
  match c.request with
  | .ok request => c.receive .whole (server request)
  | .error e => c.classify (.error e)

end InstanceOperator
