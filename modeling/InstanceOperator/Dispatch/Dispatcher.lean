import InstanceOperator.Dispatch.Scheduler

/-!
# The dispatcher

The dispatcher follows the changes of instances and of their dependents, and starts passes. One pass
runs for an instance at a time, no more passes run together than the configuration allows, and none
runs before the instances have been listed. Times are in milliseconds.
-/

namespace InstanceOperator

/-- What an instance is called by the dispatcher. -/
def Instance.subject (i : Instance) : InstanceName :=
  ⟨i.metadata.nameAny, i.metadata.ns⟩

/-- The instances that own a dependent. -/
def Dependent.ownerSubjects (d : Dependent) : List InstanceName :=
  (d.owners.filter fun o => o.apiVersion = instanceApiVersion && o.kind = instanceKind).map
    fun o => ⟨o.name, d.metadata.ns⟩

/-- Something that reaches the dispatcher. -/
inductive Incoming where
  /-- An instance has been listed, added or modified. -/
  | applied (i : Instance)
  /-- An instance has been deleted. -/
  | deleted (i : Instance)
  /-- A dependent has changed in some way. -/
  | touched (d : Dependent)
  /-- A pass that has ended asks for another one at a time. -/
  | again (subject : InstanceName) (time : Nat)
deriving DecidableEq

structure Dispatcher where
  /-- How many passes may run at once. -/
  concurrency : Nat
  scheduler : Scheduler
  /-- Whether the instances have been listed. -/
  synced : Bool := false
  /-- The instances that are known. -/
  known : Registry InstanceName Instance := Registry.empty
  /-- What has not been taken notice of yet, in order. -/
  inbox : List Incoming := []
  /-- The instances whose passes are running. -/
  running : List InstanceName := []
deriving DecidableEq

namespace Dispatcher

/-- Hand something to the dispatcher. -/
def receive (d : Dispatcher) (i : Incoming) : Dispatcher :=
  { d with inbox := d.inbox ++ [i] }

/-- Wish for passes of instances at a time. -/
def wishAll (d : Dispatcher) (subjects : List InstanceName) (time : Nat) : Dispatcher :=
  { d with scheduler := subjects.foldl (fun s subject => s.wish subject time) d.scheduler }

def notice (d : Dispatcher) (now : Nat) : Incoming → Dispatcher
  | .applied i => { d with known := d.known.insert i.subject i }.wishAll [i.subject] now
  | .deleted i => { d with known := d.known.erase i.subject }
  | .touched x => d.wishAll x.ownerSubjects now
  | .again subject time => d.wishAll [subject] time

/-- Take notice of everything in the inbox. -/
def readInbox (d : Dispatcher) (now : Nat) : Dispatcher :=
  d.inbox.foldl (fun d i => d.notice now i) { d with inbox := [] }

/-- Whether a pass of an instance may run now. -/
def canRun (d : Dispatcher) (subject : InstanceName) : Bool :=
  d.synced && d.running.length < d.concurrency && !d.running.contains subject

/-- The next instance whose pass is to start, and what is known of it. -/
def next? (d : Dispatcher) (now : Nat) : Option (InstanceName × Option Instance) × Dispatcher :=
  let d := d.readInbox now
  match d.scheduler.take? now d.canRun with
  | (none, scheduler) => (none, { d with scheduler })
  | (some subject, scheduler) =>
    match d.known.get? subject with
    -- it has been deleted since the wish, so there is no pass to run
    | none => (some (subject, none), { d with scheduler })
    | some i =>
      (some (subject, some i), { d with scheduler, running := d.running ++ [subject] })

/-- Note that the pass of an instance has ended. -/
def finish (d : Dispatcher) (subject : InstanceName) : Dispatcher :=
  { d with running := d.running.filter (· ≠ subject) }

/-- When the next pass is due. -/
def dueAt? (d : Dispatcher) : Option Nat :=
  d.scheduler.earliest?.map (·.2)

end Dispatcher

end InstanceOperator
