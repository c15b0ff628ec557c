import InstanceOperator.Rehearsal.ApiServer

/-!
# Disturbances of a server

Rules by which a server departs from its normal answers: it may store a posted object first, wait,
remain silent, break the connection, or report a failure. The first rule that matches a request and
has uses left applies.
-/

namespace InstanceOperator.Rehearsal

/-- What is asked of a server. -/
inductive Verb where
  | get | create | list
deriving DecidableEq, Repr

def Verb.ofName? (s : String) : Option Verb :=
  [("get", get), ("create", create), ("list", list)].lookup s

/-- How a server ends its answer. -/
inductive Ending where
  /-- As usual. -/
  | normal
  /-- Not at all. -/
  | silence
  | broken (reason : String)
  | failure (code : Nat) (message reason : String)
deriving DecidableEq, Repr

structure Rule where
  verb : Verb
  /-- The plural name of the objects that the request is about. -/
  plural : String
  /-- The name of the object that the request is about; any if absent. -/
  name : Option String := none
  /-- How often the rule still applies; always if absent. -/
  uses : Option Nat := none
  /-- Whether a posted object is stored first. -/
  stores : Bool := false
  /-- How long the server waits, in milliseconds. -/
  delay : Nat := 0
  ending : Ending := .normal
deriving DecidableEq, Repr

/-- The verb, the plural name and the name that a call is about. -/
def Rule.subject : Call → Verb × String × String
  | .getInstance key => (.get, instancePlural, key.name)
  | .get kind key => (.get, kind.plural, key.name)
  | .create d => (.create, d.kind.plural, d.key.name)

/-- Whether a rule applies to a request. -/
def Rule.applies (r : Rule) (verb : Verb) (plural name : String) : Bool :=
  r.verb = verb && r.plural = plural && r.uses ≠ some 0
    && (match r.name with
      | none => true
      | some n => n = name)

/-- Use a rule up by one. -/
def Rule.used (r : Rule) : Rule :=
  { r with uses := r.uses.map (· - 1) }

/-- The rule that applies to a request, and the rules that are left. -/
def Rule.take? (verb : Verb) (plural name : String) : List Rule → Option Rule × List Rule
  | [] => (none, [])
  | r :: rest =>
    if r.applies verb plural name then (some r, r.used :: rest)
    else
      let (found, rest) := Rule.take? verb plural name rest
      (found, r :: rest)

/-- The reply that an ending amounts to, by a server whose normal answer is given. -/
def Ending.reply? (e : Ending) (server : ApiServer) (request : Request) :
    Option (Reply × ApiServer) :=
  match e with
  | .normal => some (server.answer request)
  | .silence => none
  | .broken reason => some (.failed reason, server)
  | .failure code message reason => some (ApiServer.failure code message reason, server)

end InstanceOperator.Rehearsal
