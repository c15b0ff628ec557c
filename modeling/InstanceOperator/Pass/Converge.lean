import InstanceOperator.Desired.State
import InstanceOperator.Pass.Ensure

/-!
# Passes

A pass looks at one instance and brings about at most one missing dependent: the first kind in the
order of convergence that is not there is created, and the pass asks to be run again. Nothing is
remembered from one pass to the next.
-/

namespace InstanceOperator

/-- How a pass that does not fail ends. -/
inductive PassResult where
  /-- All dependents exist, or there is nothing to do. -/
  | done
  /-- A dependent has come into being; another pass is needed. -/
  | requeue
deriving DecidableEq, Repr

def PassResult.name : PassResult → String
  | .done => "done"
  | .requeue => "requeue"

abbrev PassEnd := Except OperatorError PassResult

/-- The name under which the end of a pass is counted. -/
def PassEnd.name : PassEnd → String
  | .ok result => result.name
  | .error _ => "error"

/-- What follows from ensuring one dependent, where `rest` deals with those after it. -/
def settle (key : ObjectKey) (want : Dependent) (rest : Program PassEnd) :
    Outcome → Program PassEnd
  | .alreadyExists => rest
  | .created => .emit (.log (.createdFor want.kind key)) (.done (.ok .requeue))
  | .createConflict => .done (.ok .requeue)
  | .lookupFailed e =>
    .emit (.count (.failed want.kind .lookup)) (.done (.error (.lookup want.kind want.key.text e)))
  | .createFailed e =>
    .emit (.count (.failed want.kind .create)) (.done (.error (.create want.kind want.key.text e)))

/-- Ensure dependents one after the other, up to the first that was not there. -/
def converge (deadline : Instant) (policy : DriftPolicy) (key : ObjectKey) :
    List Dependent → Program PassEnd
  | [] => .done (.ok .done)
  | want :: rest =>
    (ensure deadline policy want).bind (settle key want (converge deadline policy key rest))

/-- What a pass does with the instance that it fetched. -/
def convergeInstance (deadline : Instant) (policy : DriftPolicy) (key : ObjectKey) (i : Instance) :
    Program PassEnd :=
  if i.metadata.deletionTimestamp.isSome then
    .emit (.log (.terminating key)) (.done (.ok .done))
  else match desiredState i with
    | .error cause => .done (.error (.malformed cause))
    | .ok desired => converge deadline policy key (Kind.ordered.map desired.get)

/-- What follows from the result of fetching the instance. -/
def settleFetch (deadline : Instant) (policy : DriftPolicy) (key : ObjectKey) :
    Except StoreError Instance → Program PassEnd
  | .ok i => convergeInstance deadline policy key i
  | .error e =>
    if e.isNotFound then .done (.ok .done)
    else .emit (.log (.fetchFailed key e)) (.done (.error (.store e)))

/-- A pass for the instance of a key, with the deadline that all its calls share. -/
def pass (deadline : Instant) (policy : DriftPolicy) (key : ObjectKey) : Program PassEnd :=
  .ask deadline (.getInstance key) (settleFetch deadline policy key)

/-- A pass that begins at a reading of the clock and may take some time. Its deadline is computed
before anything else; where the clock has no such reading, that breaks the operator off, and there
is no pass. -/
def startPass (timeout : Duration) (policy : DriftPolicy) (key : ObjectKey) (now : Instant) :
    Option (Program PassEnd) :=
  (now.after? timeout).map fun deadline => pass deadline policy key

end InstanceOperator
