import InstanceOperator.Drift.Difference
import InstanceOperator.Log.Level
import InstanceOperator.OperatorError

/-!
# Notices

What the operator writes to its log, as data. `Notice.level` and `Notice.message` give the written
form.
-/

namespace InstanceOperator

/-- How the dispatcher names an instance. -/
structure InstanceName where
  name : String
  ns : Option String
deriving DecidableEq, Repr

/-- The written form of an instance's name, with the type of the instance in front. -/
def InstanceName.text (n : InstanceName) : String :=
  instanceKind ++ "." ++ instanceVersion ++ "." ++ apiGroup ++ "/" ++ n.name
    ++ (n.ns.map ("." ++ ·)).getD ""

/-- Something that is written to the log. -/
inductive Notice where
  /-- An instance could not be fetched. -/
  | fetchFailed (key : ObjectKey) (cause : StoreError)
  /-- An instance is on its way out. -/
  | terminating (key : ObjectKey)
  /-- A dependent was created. -/
  | created (kind : Kind) (key : ObjectKey)
  /-- A dependent was created for an instance, which is to be looked at again. -/
  | createdFor (kind : Kind) (instanceKey : ObjectKey)
  /-- An existing dependent differs from the desired one. -/
  | drifted (kind : Kind) (key : ObjectKey) (differences : List Difference)
  /-- An instance fails for good. -/
  | gaveUp (key : String) (cause : OperatorError)
  /-- An instance fails and is to be tried again. -/
  | retrying (key : String) (attempt : Nat) (delay : Duration) (cause : OperatorError)
  /-- The operator has become ready. -/
  | ready
  | watchStarted
  | watchStopped
  /-- The dispatcher's own word about a failed pass. -/
  | passFailed (subject : InstanceName)
  /-- A pass was due for an instance that is not known. -/
  | unknownInstance (subject : InstanceName)
deriving DecidableEq

namespace Notice

def level : Notice → Level
  | .fetchFailed .. => .warn
  | .terminating .. => .info
  | .created .. => .info
  | .createdFor .. => .info
  | .drifted .. => .warn
  | .gaveUp .. => .error
  | .retrying .. => .warn
  | .ready => .info
  | .watchStarted => .info
  | .watchStopped => .info
  | .passFailed .. => .warn
  | .unknownInstance .. => .warn

def message : Notice → String
  | .fetchFailed key cause =>
    "Failed to fetch " ++ instanceKind ++ " " ++ key.text ++ ": " ++ cause.message
  | .terminating key =>
    instanceKind ++ " " ++ key.text
      ++ " is being deleted, leaving dependents to garbage collection"
  | .created kind key => "Created " ++ kind.name ++ " " ++ key.text
  | .createdFor kind key =>
    "Created " ++ kind.name ++ " for " ++ instanceKind ++ " " ++ key.text ++ ", requeueing"
  | .drifted kind key differences =>
    kind.name ++ " " ++ key.text ++ " has drifted from its desired state: "
      ++ "; ".intercalate (differences.map Difference.text)
  | .gaveUp key cause =>
    "Reconciliation of " ++ instanceKind ++ " " ++ key ++ " failed permanently: " ++ cause.message
  | .retrying key attempt delay cause =>
    "Reconciliation of " ++ instanceKind ++ " " ++ key ++ " failed (attempt " ++ toString attempt
      ++ "), retrying in " ++ delay.text ++ ": " ++ cause.message
  | .ready => "Controller marked as ready"
  | .watchStarted => "Starting " ++ instanceKind ++ " watcher"
  | .watchStopped => instanceKind ++ " watcher stopped"
  | .passFailed subject =>
    instanceKind ++ " controller error: reconciler for object " ++ subject.text ++ " failed"
  | .unknownInstance subject =>
    instanceKind ++ " controller error: tried to reconcile object " ++ subject.text
      ++ " that was not found in local store"

/-- The line of a notice. -/
def text (n : Notice) : String :=
  n.level.name ++ " " ++ n.message

end Notice

end InstanceOperator
