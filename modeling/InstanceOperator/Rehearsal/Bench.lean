import InstanceOperator.Dispatch.Handler
import InstanceOperator.Metrics.Server
import InstanceOperator.Pass.Timed

/-!
# A test bench for the operator

The operator's parts around a store in memory, driven step by step. A step changes the store from
outside, runs a pass, asks the error policy, or looks at what has come of it; `Bench.step` says what
it answers and what it leaves behind.
-/

namespace InstanceOperator.Rehearsal

/-- How long the calls of a pass wait before they are served, in milliseconds. -/
structure Delays where
  getInstance : Nat := 0
  get : Nat := 0
  create : Nat := 0
deriving DecidableEq, Repr

/-- The waiting times that delays amount to. -/
def Delays.waits (d : Delays) : Waits := fun _ c =>
  match c with
  | .getInstance _ => some (d.getInstance * 1000000)
  | .get _ _ => some (d.get * 1000000)
  | .create _ => some (d.create * 1000000)

structure Bench where
  store : MemoryStore := {}
  books : Books
  policy : DriftPolicy := .ignore
  /-- The time that a pass may take, in milliseconds. -/
  passTimeout : Nat
  delays : Delays := {}
  /-- How the last failed pass failed. -/
  lastError : Option OperatorError := none
deriving DecidableEq

inductive Step where
  | addInstance (i : Instance)
  | addDependent (d : Dependent)
  | deleteInstance (key : ObjectKey)
  | failInstance (key : ObjectKey) (f : Failure)
  | failLookup (kind : Kind) (f : Failure)
  | failCreate (kind : Kind) (f : Failure)
  | clearFailures
  | resetCalls
  | delay (d : Delays)
  | markReady
  | resetBackoff (key : String)
  /-- Run a pass. -/
  | reconcile (key : ObjectKey)
  /-- Ask what follows a failure, by default the last one. -/
  | settleFailure (i : Instance) (cause : Option OperatorError)
  /-- Ensure a dependent within a time, in milliseconds. -/
  | ensure (want : Dependent) (timeout : Nat) (policy : DriftPolicy)
  /-- Make a call without delay. -/
  | call (c : Call)
  /-- Look for a dependent without a call. -/
  | peek (kind : Kind) (key : ObjectKey)
  | metrics
  /-- Request a page. -/
  | request (method target : String)
deriving DecidableEq

/-- What a step answers. -/
inductive Answer where
  | ok
  | added (d : Dependent)
  | removed (found : Bool)
  /-- A pass ended after a time, in milliseconds. -/
  | passed (result : PassEnd) (elapsed : Nat)
  | action (a : Action)
  | outcome (o : Outcome)
  | gotInstance (i : Instance)
  | gotDependent (d : Dependent)
  | created
  | refused (e : StoreError)
  /-- The call is never answered. -/
  | silence
  | peeked (d : Option Dependent)
  | lines (text : List String)
  | page (a : Metrics.Answer)
  /-- The step cannot be carried out, or the operator breaks off in it. -/
  | impossible

/-- The answer with the result of a call. -/
def Answer.ofResult : (c : Call) → c.Result → Answer
  | _, .error e => .refused e
  | .getInstance _, .ok i => .gotInstance i
  | .get _ _, .ok d => .gotDependent d
  | .create _, .ok () => .created

namespace Bench

/-- Run a program on a clock that shows zero when it begins, and enter its traces into the books.
The time that it took is in nanoseconds. -/
def perform {α : Type} (b : Bench) (p : Program α) : α × Nat × Bench :=
  let (a, r) := p.run b.delays.waits { store := b.store }
  (a, r.now.toNat, { b with store := r.store, books := r.effects.foldl Books.enter b.books })

/-- Run a pass and count its end, unless the operator breaks off. -/
def reconcile (b : Bench) (key : ObjectKey) : Option (PassEnd × Nat × Bench) :=
  (startPass (Duration.ofMillis b.passTimeout) b.policy key Instant.origin).map fun p =>
    let (result, elapsed, b) := b.perform p
    (result, elapsed, { b with books := b.books.endPass result (Duration.ofNanos elapsed) })

/-- Keep the error of a failed pass. -/
def noteError (b : Bench) : PassEnd → Bench
  | .ok _ => b
  | .error e => { b with lastError := some e }

def step (b : Bench) : Step → Answer × Bench
  | .addInstance i => (.ok, { b with store := b.store.addInstance i })
  | .addDependent d => (.added d, { b with store := b.store.addDependent d })
  | .deleteInstance key =>
    (.removed (b.store.instances.contains key), { b with store := b.store.deleteInstance key })
  | .failInstance key f => (.ok, { b with store := b.store.failInstance key f })
  | .failLookup kind f => (.ok, { b with store := b.store.failLookup kind f })
  | .failCreate kind f => (.ok, { b with store := b.store.failCreate kind f })
  | .clearFailures => (.ok, { b with store := b.store.clearFailures })
  | .resetCalls => (.ok, { b with store := b.store.resetCalls })
  | .delay d => (.ok, { b with delays := d })
  | .markReady => (.ok, { b with books := b.books.markReady })
  | .resetBackoff key => (.ok, { b with books := b.books.forget key })
  | .reconcile key =>
    match b.reconcile key with
    | some (result, elapsed, b) => (.passed result (elapsed / 1000000), b.noteError result)
    | none => (.impossible, b)
  | .settleFailure i cause =>
    match cause <|> b.lastError with
    | none => (.impossible, b)
    | some cause =>
      let (action, books) := b.books.settleFailure i cause
      (.action action, { b with books })
  | .ensure want timeout policy =>
    match Instant.ofMillis? timeout with
    | some deadline =>
      let (outcome, _, b) := b.perform (ensure deadline policy want)
      (.outcome outcome, b)
    | none => (.impossible, b)
  | .call c =>
    let (result, store) := b.store.serve c
    ((result.map (Answer.ofResult c)).getD .silence, { b with store })
  | .peek kind key => (.peeked (b.store.dependents.get? (kind, key)), b)
  | .metrics => (.lines b.books.metrics.lines, b)
  | .request method target =>
    match b.books.metrics.serve? method target with
    | some page => (.page page, b)
    | none => (.impossible, b)

end Bench

end InstanceOperator.Rehearsal
