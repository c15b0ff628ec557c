import InstanceOperator.Metrics.Basic
import InstanceOperator.Notice
import InstanceOperator.Store.Call
import InstanceOperator.Time.Instant

/-!
# Programs over a store

What the operator does, as a tree: it ends with a value, leaves a trace in the log or the metrics,
or makes a call and goes on with its result. Each call is made with a deadline of its own. The same
program is run against a store in memory and against the cluster.
-/

namespace InstanceOperator

/-- A trace that a program leaves. -/
inductive Effect where
  | log (notice : Notice)
  | count (event : MetricEvent)
deriving DecidableEq

/-- A program that calls the store and ends with a value. -/
inductive Program (α : Type) where
  | done (a : α)
  | emit (effect : Effect) (rest : Program α)
  /-- Make a call, which is given up at the deadline, and go on with what it comes to. -/
  | ask (deadline : Instant) (call : Call) (rest : call.Result → Program α)

namespace Program

variable {α β : Type}

/-- Go on with the value of a program. -/
def bind (p : Program α) (f : α → Program β) : Program β :=
  match p with
  | .done a => f a
  | .emit e rest => .emit e (rest.bind f)
  | .ask deadline c rest => .ask deadline c fun r => (rest r).bind f

/-- Apply a function to the value of a program. -/
def map (f : α → β) (p : Program α) : Program β :=
  p.bind fun a => .done (f a)

end Program

end InstanceOperator
