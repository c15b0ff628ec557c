import InstanceOperator.Notice
import InstanceOperator.Registry

/-!
# Scheduling passes

When the next pass of each instance is due. An instance is scheduled once at most: an earlier wish
replaces a later one, and a later one changes nothing. A pass that falls due and cannot run, because
one of the same instance is running or there is no room for another, is held back until it can; till
then further wishes for it change nothing. Times are in milliseconds.
-/

namespace InstanceOperator

/-- When passes are due. -/
structure Scheduler where
  /-- How long after a wish a pass is due. -/
  debounce : Nat
  /-- The instances that are scheduled and when their passes are due. -/
  scheduled : Registry InstanceName Nat := Registry.empty
  /-- The instances whose passes were due and have been held back, in order. -/
  held : List InstanceName := []
deriving DecidableEq

namespace Scheduler

/-- Enter the wish for a pass at a time. A scheduled pass gives way if it was due no earlier than
that. -/
def wish (s : Scheduler) (subject : InstanceName) (time : Nat) : Scheduler :=
  if subject ∈ s.held then s
  else match s.scheduled.get? subject with
    | some due =>
      if time ≤ due then { s with scheduled := s.scheduled.insert subject (time + s.debounce) }
      else s
    | none => { s with scheduled := s.scheduled.insert subject (time + s.debounce) }

/-- The scheduled instance that is due first, the one entered first if there are several. -/
def earliest? (s : Scheduler) : Option (InstanceName × Nat) :=
  s.scheduled.entries.foldr
    (fun e best => match best with
      | none => some e
      | some b => if e.2 < b.2 then some e else some b)
    none

/-- Hold back the scheduled passes that are due and cannot run. -/
def holdBack (s : Scheduler) (now : Nat) (canRun : InstanceName → Bool) : Scheduler :=
  let stuck := fun (e : InstanceName × Nat) => e.2 ≤ now && !canRun e.1
  { s with
    scheduled := s.scheduled.filter fun subject due => !stuck (subject, due)
    held := s.held ++ ((s.scheduled.entries.filter stuck).map (·.1)).reverse }

/-- Take the next instance whose pass is due and can run. One that was held back comes first. -/
def take? (s : Scheduler) (now : Nat) (canRun : InstanceName → Bool) :
    Option InstanceName × Scheduler :=
  match s.held.find? canRun with
  | some subject => (some subject, { s with held := s.held.filter (· ≠ subject) })
  | none =>
    -- what remains scheduled is not due yet, or can run
    let s := s.holdBack now canRun
    match s.earliest? with
    | some (subject, due) =>
      if due ≤ now then (some subject, { s with scheduled := s.scheduled.erase subject })
      else (none, s)
    | none => (none, s)

end Scheduler

end InstanceOperator
