import InstanceOperator.Pass.Converge
import InstanceOperator.Store.Memory

/-!
# Programs in time

How a program runs against a store in memory when calls take time. A call that would be served only
after its deadline is given up then: it leaves no trace in the store, and the program goes on with
an error. Times are in nanoseconds.
-/

namespace InstanceOperator

/-- How long each call of a program waits before it is served, by its number and the call itself.
`none` means that it waits for ever. -/
abbrev Waits := Nat → Call → Option Nat

structure Run where
  store : MemoryStore
  /-- The time on the clock. -/
  now : Int := 0
  /-- How many calls were made. -/
  made : Nat := 0
  /-- The traces left, in order. -/
  effects : List Effect := []
deriving DecidableEq

namespace Run

/-- When a call that is made now is given up. One whose deadline has passed is still served if it
need not wait. -/
def patience (r : Run) (deadline : Instant) : Int :=
  max r.now deadline.toNanos

/-- A call that is given up never takes the clock back, even behind the deadline. -/
theorem now_le_patience (r : Run) (deadline : Instant) : r.now ≤ r.patience deadline :=
  Int.le_max_left _ _

/-- The state behind a call that was given up. -/
def giveUp (r : Run) (deadline : Instant) : Run :=
  { r with now := r.patience deadline, made := r.made + 1 }

/-- The result of a call and the state behind it. -/
def answer (waits : Waits) (r : Run) (deadline : Instant) (c : Call) : c.Result × Run :=
  match waits r.made c with
  | none => (.error c.expired, r.giveUp deadline)
  | some wait =>
    if r.now + wait ≤ r.patience deadline then
      match r.store.serve c with
      | (some result, store) =>
        (result, { r with store, now := r.now + wait, made := r.made + 1 })
      -- the call has reached the store, which never answers
      | (none, store) => (.error c.expired, { r.giveUp deadline with store })
    else (.error c.expired, r.giveUp deadline)

def leave (r : Run) (e : Effect) : Run :=
  { r with effects := r.effects ++ [e] }

end Run

/-- The value of a program and the state behind it. -/
def Program.run {α : Type} (waits : Waits) : Program α → Run → α × Run
  | .done a, r => (a, r)
  | .emit e rest, r => rest.run waits (r.leave e)
  | .ask deadline c rest, r =>
    let (result, r) := r.answer waits deadline c
    (rest result).run waits r

end InstanceOperator
