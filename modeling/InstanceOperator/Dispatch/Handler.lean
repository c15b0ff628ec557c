import InstanceOperator.Pass.Converge
import InstanceOperator.Retry.Tracker

/-!
# Handling the end of a pass

What the dispatcher does when a pass has ended: it decides when the instance is looked at again, and
keeps the books about failures, metrics and the log.
-/

namespace InstanceOperator

/-- When an instance is looked at again. -/
inductive Action where
  /-- When it, or something it owns, changes. -/
  | awaitChange
  /-- After a delay, or earlier if there is a change. -/
  | requeue (delay : Duration)
deriving DecidableEq

/-- What follows from the result of a pass. -/
def PassResult.action : PassResult → Action
  | .done => .awaitChange
  | .requeue => .requeue Duration.zero

/-- What is kept across passes. -/
structure Books where
  tracker : Tracker
  metrics : Metrics := {}
  /-- The notices written, in order. -/
  log : List Notice := []
deriving DecidableEq

namespace Books

def write (b : Books) (n : Notice) : Books :=
  { b with log := b.log ++ [n] }

def count (b : Books) (e : MetricEvent) : Books :=
  { b with metrics := b.metrics.record e }

/-- Enter a trace that a program left. -/
def enter (b : Books) : Effect → Books
  | .log n => b.write n
  | .count e => b.count e

def markReady (b : Books) : Books :=
  (b.count .ready).write .ready

/-- Forget the failures of a key. -/
def forget (b : Books) (key : String) : Books :=
  { b with tracker := b.tracker.reset key }

/-- Count the end of a pass. -/
def endPass (b : Books) (result : PassEnd) (elapsed : Duration) : Books :=
  b.count (.passEnded result.name elapsed)

end Books

namespace Instance

/-- The key under which passes of an instance run. An instance without a namespace has none. -/
def passKey (i : Instance) : Except OperatorError ObjectKey :=
  match i.key? with
  | some key => .ok key
  | none => .error (.malformed (.unplaced i.metadata.name))

/-- The key under which failures of an instance are counted. -/
def failureKey (i : Instance) : String :=
  match i.key? with
  | some key => key.text
  | none => i.metadata.name.getD ""

end Instance

/-- Decide what follows a failure. A failure that would only repeat itself waits for a change; any
other is tried again after a delay that grows with the failures in a row. -/
def Books.settleFailure (b : Books) (i : Instance) (cause : OperatorError) : Action × Books :=
  let key := i.failureKey
  if cause.isRetryable then
    let delay := b.tracker.nextDelay key
    let notice := Notice.retrying key (b.tracker.nextAttempt key) delay cause
    (.requeue delay,
      { b with tracker := b.tracker.fail key }.write notice |>.count .requeued)
  else (.awaitChange, b.write (.gaveUp key cause))

/-- Decide what follows the end of a pass of an instance. -/
def Books.settlePass (b : Books) (i : Instance) (key : ObjectKey) : PassEnd → Action × Books
  | .ok result => (result.action, b.forget key.text)
  | .error cause => b.settleFailure i cause

end InstanceOperator
