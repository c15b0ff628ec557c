import InstanceOperator.Metrics.Exposition
import InstanceOperator.Number.Shortest
import InstanceOperator.Object.Kind
import InstanceOperator.Time.Duration

/-!
# Metrics of the operator

What the operator counts about itself. `MetricEvent` names what can be counted, `Metrics.record`
counts one event, and `Metrics.families` is the published view.
-/

namespace InstanceOperator

/-- The phase of bringing a dependent about in which a failure occurred. -/
inductive FailurePhase where
  | lookup
  | create
deriving DecidableEq, Repr

namespace FailurePhase

def name : FailurePhase → String
  | .lookup => "lookup"
  | .create => "create"

def ofName? (s : String) : Option FailurePhase :=
  [lookup, create].find? fun p => p.name = s

end FailurePhase

/-- Something that is counted. -/
inductive MetricEvent where
  /-- A pass ended, with a result and after a time. -/
  | passEnded (result : String) (elapsed : Duration)
  /-- A dependent was created. -/
  | created (kind : Kind)
  /-- Bringing a dependent about failed. -/
  | failed (kind : Kind) (phase : FailurePhase)
  /-- An existing dependent differs from the desired one. -/
  | drifted (kind : Kind)
  /-- A failed pass was put off. -/
  | requeued
  /-- The operator has become ready. -/
  | ready
deriving DecidableEq

/-- A count for each text, in the order of the texts. -/
abbrev Tally := List (String × Nat)

def Tally.count (text : String) : Tally → Tally
  | [] => [(text, 1)]
  | (t, n) :: rest =>
    if text < t then (text, 1) :: (t, n) :: rest
    else if text = t then (t, n + 1) :: rest
    else (t, n) :: Tally.count text rest

def Tally.get (text : String) (t : Tally) : Nat :=
  (t.lookup text).getD 0

structure Metrics where
  /-- Passes by their result. -/
  passes : Tally := []
  /-- How long the passes took, in the order of their ends. -/
  durations : List Duration := []
  created : PerKind Nat := PerKind.const 0
  lookupFailures : PerKind Nat := PerKind.const 0
  createFailures : PerKind Nat := PerKind.const 0
  drifted : PerKind Nat := PerKind.const 0
  requeues : Nat := 0
  isReady : Bool := false
deriving DecidableEq

namespace Metrics

/-- Count one more for a kind. -/
def bump (p : PerKind Nat) (k : Kind) : PerKind Nat :=
  p.set k (p.get k + 1)

def record (m : Metrics) : MetricEvent → Metrics
  | .passEnded result elapsed =>
    { m with passes := m.passes.count result, durations := m.durations ++ [elapsed] }
  | .created k => { m with created := bump m.created k }
  | .failed k .lookup => { m with lookupFailures := bump m.lookupFailures k }
  | .failed k .create => { m with createFailures := bump m.createFailures k }
  | .drifted k => { m with drifted := bump m.drifted k }
  | .requeued => { m with requeues := m.requeues + 1 }
  | .ready => { m with isReady := true }

def failures (m : Metrics) (k : Kind) : FailurePhase → Nat
  | .lookup => m.lookupFailures.get k
  | .create => m.createFailures.get k

/-! ## Histogram -/

/-- A number of seconds as a double. -/
def secondsOf (d : Duration) : Float :=
  (UInt64.ofNat d.secs).toFloat + (UInt64.ofNat d.nanos).toFloat / 1e9

/-- The text of a double, without an exponent. -/
def floatText (x : Float) : String :=
  if x.isInf then "+Inf" else (Number.shortest x.toBits.toNat).positional

/-- The upper bounds of the buckets, the infinite one apart. -/
def bucketBounds : List Float :=
  [0.005, 0.01, 0.025, 0.05, 0.1, 0.25, 0.5, 1, 2.5, 5, 10]

/-- The number of passes that took no longer than a bound. -/
def bucketCount (m : Metrics) (bound : Float) : Nat :=
  m.durations.countP fun d => secondsOf d ≤ bound

/-- The time of all passes together, in seconds. -/
def durationSum (m : Metrics) : Float :=
  m.durations.foldl (fun sum d => sum + secondsOf d) 0

/-- The samples of the histogram: the buckets, the sum and the count. -/
def histogramSamples (m : Metrics) : List Sample :=
  bucketBounds.map (fun b =>
      { suffix := "_bucket", labels := [("le", floatText b)], value := toString (m.bucketCount b) })
    ++ [{ suffix := "_bucket", labels := [("le", "+Inf")], value := toString m.durations.length },
        { suffix := "_sum", value := floatText m.durationSum },
        { suffix := "_count", value := toString m.durations.length }]

/-! ## Families -/

/-- The kinds in the order of their names. -/
def kindsByName : List Kind := [.deployment, .ingress, .service]

/-- The sample of a counter, unless nothing was counted. -/
def counted (labels : List (String × String)) (n : Nat) : Option Sample :=
  if n = 0 then none else some { labels, value := toString n }

/-- The samples of a counter by kind. -/
def kindSamples (p : PerKind Nat) : List Sample :=
  kindsByName.filterMap fun k => counted [("kind", k.name)] (p.get k)

/-- The samples of the failures, by kind and phase. -/
def failureSamples (m : Metrics) : List Sample :=
  kindsByName.flatMap fun k => [FailurePhase.create, .lookup].filterMap fun p =>
    counted [("kind", k.name), ("phase", p.name)] (m.failures k p)

/-- The samples of the passes, by result. -/
def passSamples (m : Metrics) : List Sample :=
  m.passes.map fun e => { labels := [("result", e.1)], value := toString e.2 }

/-- What the name of every family begins with. -/
def nameStart : String := "instance_operator_"

/-- All families, in the order of their names. -/
def families (m : Metrics) : List Family :=
  [{ name := nameStart ++ "dependents_created_total"
     help := "Dependents created by kind", type := .counter
     samples := kindSamples m.created },
   { name := nameStart ++ "drift_detected_total"
     help := "Existing dependents that differ from the desired state", type := .counter
     samples := kindSamples m.drifted },
   { name := nameStart ++ "ensure_failures_total"
     help := "Failed dependent lookups and creates", type := .counter
     samples := m.failureSamples },
   { name := nameStart ++ "reconcile_duration_seconds"
     help := "Duration of reconciliation passes", type := .histogram
     samples := m.histogramSamples },
   { name := nameStart ++ "reconcile_passes_total"
     help := "Reconciliation passes by result", type := .counter
     samples := m.passSamples },
   { name := nameStart ++ "requeues_with_backoff_total"
     help := "Failed passes requeued with backoff", type := .counter
     samples := [{ value := toString m.requeues }] }]

/-- The published text, line by line. -/
def lines (m : Metrics) : List String :=
  m.families.flatMap Family.lines

end Metrics

end InstanceOperator
