import InstanceOperator.Http.Target
import InstanceOperator.Metrics.Basic

/-!
# Metrics and probes over HTTP

The three paths that the operator serves: its metrics, a probe that tells that it lives, and one
that tells whether it is ready.
-/

namespace InstanceOperator.Metrics

inductive Page where
  | metrics
  | alive
  | ready
deriving DecidableEq, Repr

def page? (path : String) : Option Page :=
  if path = "/metrics" then some .metrics
  else if path = "/healthz" then some .alive
  else if path = "/readyz" then some .ready
  else none

structure Answer where
  status : Nat
  contentType : Option String := none
  /-- The methods that the path allows, if another one was tried. -/
  allow : Option String := none
  body : List String := []
deriving DecidableEq, Repr

def page (m : Metrics) : Page → Answer
  | .metrics => { status := 200, contentType := some "text/plain; version=0.0.4", body := m.lines }
  | .alive => { status := 200 }
  | .ready => { status := if m.isReady then 200 else 503 }

/-- The answer to a request for a path. -/
def answer (m : Metrics) (method path : String) : Answer :=
  match page? path with
  | none => { status := 404 }
  | some p =>
    if method = "GET" then m.page p
    else if method = "HEAD" then { m.page p with body := [] }
    else { status := 405, allow := some "GET,HEAD" }

/-- Whether a text can be the method of a request. -/
def isMethod (s : String) : Bool :=
  s ≠ "" && s.toList.all fun c =>
    c.isAlphanum || "!#$%&'*+-.^_|~".toList.contains c || c == '\x60'

/-- Answer a request, if it can be made at all. -/
def serve? (m : Metrics) (method target : String) : Option Answer :=
  if !isMethod method then none
  else (Http.Target.read? target).map fun t => m.answer method t.path

end InstanceOperator.Metrics
