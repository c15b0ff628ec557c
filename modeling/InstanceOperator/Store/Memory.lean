import InstanceOperator.Registry
import InstanceOperator.Store.Call

/-!
# A store in memory

A store that holds its objects itself, remembers the calls it received, and can be made to fail.
`MemoryStore.serve` says how it answers a call. Deleting an instance also deletes the dependents
that name its unique identifier as an owner, as the collector of the cluster does.
-/

namespace InstanceOperator

/-- A failure that a store can be made to show instead of serving a call. -/
inductive Failure where
  | unavailable
  | invalid
  /-- On a creation the object is stored nevertheless, as if someone else had come first. -/
  | alreadyExists
  /-- The call is never answered. -/
  | hang
deriving DecidableEq, Repr

namespace Failure

def name : Failure → String
  | .unavailable => "Unavailable"
  | .invalid => "Invalid"
  | .alreadyExists => "AlreadyExists"
  | .hang => "Hang"

def ofName? (s : String) : Option Failure :=
  [unavailable, invalid, alreadyExists, hang].find? fun f => f.name = s

/-- The error that a failure shows, unless it leaves the call without an answer. -/
def error? (f : Failure) (target : String) : Option StoreError :=
  match f with
  | .unavailable => some (.unavailable target)
  | .invalid => some (.invalid target)
  | .alreadyExists => some (.alreadyExists target)
  | .hang => none

end Failure

structure MemoryStore where
  instances : Registry ObjectKey Instance := Registry.empty
  dependents : Registry (Kind × ObjectKey) Dependent := Registry.empty
  /-- The instances that cannot be fetched. -/
  instanceFailures : Registry ObjectKey Failure := Registry.empty
  /-- The kinds that cannot be looked up. -/
  lookupFailures : PerKind (Option Failure) := PerKind.const none
  /-- The kinds that cannot be created. -/
  createFailures : PerKind (Option Failure) := PerKind.const none
  /-- The calls received, in order. -/
  calls : List CallRecord := []
  /-- How many creations have succeeded. -/
  creations : Nat := 0
deriving DecidableEq

namespace MemoryStore

/-! ## Contents -/

/-- The key under which an instance is stored. -/
def instanceKey (i : Instance) : ObjectKey :=
  ⟨i.metadata.ns.getD "", i.metadata.nameAny⟩

def addInstance (s : MemoryStore) (i : Instance) : MemoryStore :=
  { s with instances := s.instances.insert (instanceKey i) i }

def addDependent (s : MemoryStore) (d : Dependent) : MemoryStore :=
  { s with dependents := s.dependents.insert (d.kind, d.key) d }

/-- Store a dependent unless there is one of its kind and key. -/
def addIfAbsent (s : MemoryStore) (d : Dependent) : MemoryStore :=
  if s.dependents.contains (d.kind, d.key) then s else s.addDependent d

/-- Whether an owner of a dependent has a unique identifier. -/
def ownedBy (d : Dependent) (uid : String) : Bool :=
  d.owners.any (·.uid = uid)

/-- Delete an instance, and the dependents that it owns. -/
def deleteInstance (s : MemoryStore) (key : ObjectKey) : MemoryStore :=
  match s.instances.get? key with
  | none => s
  | some i =>
    { s with
      instances := s.instances.erase key
      -- an instance without an identifier owns nothing
      dependents := match i.metadata.uid with
        | none => s.dependents
        | some uid => s.dependents.filter fun _ d => !ownedBy d uid }

/-! ## Failures -/

/-- Make the fetching of an instance fail. -/
def failInstance (s : MemoryStore) (key : ObjectKey) (f : Failure) : MemoryStore :=
  { s with instanceFailures := s.instanceFailures.insert key f }

/-- Make the lookups of a kind fail. -/
def failLookup (s : MemoryStore) (kind : Kind) (f : Failure) : MemoryStore :=
  { s with lookupFailures := s.lookupFailures.set kind (some f) }

/-- Make the creations of a kind fail. -/
def failCreate (s : MemoryStore) (kind : Kind) (f : Failure) : MemoryStore :=
  { s with createFailures := s.createFailures.set kind (some f) }

/-- Let everything succeed again. -/
def clearFailures (s : MemoryStore) : MemoryStore :=
  { s with
    instanceFailures := Registry.empty
    lookupFailures := PerKind.const none
    createFailures := PerKind.const none }

/-! ## Calls -/

/-- Forget the calls received. -/
def resetCalls (s : MemoryStore) : MemoryStore :=
  { s with calls := [] }

def remember (s : MemoryStore) (c : Call) : MemoryStore :=
  { s with calls := s.calls ++ [c.record] }

/-- The failure that stands in the way of a call. -/
def failure? (s : MemoryStore) : Call → Option Failure
  | .getInstance key => s.instanceFailures.get? key
  | .get kind _ => s.lookupFailures.get kind
  | .create d => s.createFailures.get d.kind

/-- Answer a call that nothing stands in the way of. -/
def fulfil (s : MemoryStore) : (c : Call) → c.Result × MemoryStore
  | .getInstance key =>
    match s.instances.get? key with
    | some i => (.ok i, s)
    | none => (.error (.notFound (Call.getInstance key).target), s)
  | .get kind key =>
    match s.dependents.get? (kind, key) with
    | some d => (.ok d, s)
    | none => (.error (.notFound (Call.get kind key).target), s)
  | .create d =>
    if s.dependents.contains (d.kind, d.key) then
      (.error (.alreadyExists (Call.create d).target), s)
    else (.ok (), { s.addDependent d with creations := s.creations + 1 })

/-- What a failing call does to the contents all the same. -/
def betray (s : MemoryStore) : Call → Failure → MemoryStore
  | .create d, .alreadyExists => s.addIfAbsent d
  | _, _ => s

/-- Serve a call. There is no result if the call is never answered. -/
def serve (s : MemoryStore) (c : Call) : Option c.Result × MemoryStore :=
  -- every call is remembered, also one that fails or is never answered
  let s := s.remember c
  match s.failure? c with
  | some f => ((f.error? c.target).map .error, s.betray c f)
  | none =>
    let (result, s) := s.fulfil c
    (some result, s)

end MemoryStore

end InstanceOperator
