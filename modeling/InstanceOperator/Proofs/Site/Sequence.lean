import InstanceOperator.Proofs.Site.Basic
import InstanceOperator.Rehearsal.Bench

/-!
# One deed after the other

What is done on a site one at a time: passes are run, single dependents are ensured, what a pass
came to is settled, and whoever else has access to the store changes it, makes its calls fail or
calls it. Each deed is carried out to its end before the next one begins. A deed does not say what
is done about differences, so that the same deeds can be carried out under either policy.

* `Site.carryOut`: one deed, what comes of it, and the site behind.
* `Site.upshots`, `Site.after`: the same for a sequence of deeds.
* `Rehearsal.Bench.site_reconcile`, `Rehearsal.Bench.site_ensure`: the test bench carries out deeds.
-/

namespace InstanceOperator

/-- Something that is done to its end, on a clock that shows zero when it begins. Times are in
nanoseconds. -/
inductive Deed where
  /-- A pass is run by a deadline. -/
  | pass (key : ObjectKey) (deadline : Instant) (waits : Waits)
  /-- A dependent is ensured by a deadline. -/
  | ensure (want : Dependent) (deadline : Instant) (waits : Waits)
  /-- It is decided what follows the end of a pass. -/
  | settle (known : Instance) (key : ObjectKey) (result : PassEnd)
  | change (change : Change)

/-- What comes of a deed. -/
inductive Upshot where
  /-- A pass has ended, after a time. -/
  | passed (key : ObjectKey) (result : PassEnd) (elapsed : Nat)
  | ensured (outcome : Outcome) (elapsed : Nat)
  | settled (action : Action)
  | changed

namespace Site

/-- Run a program to its end, and enter its traces into the books: its value, the time that it took,
and the site behind. -/
def perform {α : Type} (s : Site) (waits : Waits) (p : Program α) : α × Nat × Site :=
  let (a, r) := p.run waits { store := s.store }
  (a, r.now.toNat, { s with store := r.store, books := r.effects.foldl Books.enter s.books })

/-- Carry out a deed under a policy. -/
def carryOut (policy : DriftPolicy) (s : Site) : Deed → Upshot × Site
  | .pass key deadline waits =>
    let (result, elapsed, t) := s.perform waits (InstanceOperator.pass deadline policy key)
    (.passed key result elapsed,
      { t with books := t.books.endPass result (Duration.ofNanos elapsed) })
  | .ensure want deadline waits =>
    let (outcome, elapsed, t) := s.perform waits (InstanceOperator.ensure deadline policy want)
    (.ensured outcome elapsed, t)
  | .settle known key result =>
    let (action, books) := s.books.settlePass known key result
    (.settled action, { s with books })
  | .change ch => (.changed, { s with store := ch.apply s.store })

/-- What comes of deeds that are carried out one after the other. -/
def upshots (policy : DriftPolicy) : Site → List Deed → List Upshot
  | _, [] => []
  | s, d :: ds => (s.carryOut policy d).1 :: (s.carryOut policy d).2.upshots policy ds

/-- The site behind deeds that are carried out one after the other. -/
def after (policy : DriftPolicy) : Site → List Deed → Site
  | s, [] => s
  | s, d :: ds => (s.carryOut policy d).2.after policy ds

end Site

/-! ## The test bench -/

namespace Rehearsal.Bench

/-- The store and the books of a bench. -/
def site (b : Bench) : Site where
  store := b.store
  books := b.books
  jobs := []

/-- A pass on the bench is a deed, if its timeout leaves it a deadline. -/
theorem site_reconcile (b : Bench) (key : ObjectKey) {deadline : Instant}
    (h : Instant.ofMillis? b.passTimeout = some deadline) :
    ((b.reconcile key).map fun (result, elapsed, behind) =>
        (Upshot.passed key result elapsed, behind.site)) =
      some (b.site.carryOut b.policy (.pass key deadline b.delays.waits)) := by
  have hstart : startPass (Duration.ofMillis b.passTimeout) b.policy key Instant.origin =
      some (pass deadline b.policy key) := congrArg (Option.map _) h
  rw [reconcile, hstart]
  rfl

/-- Ensuring a dependent on the bench is a deed. -/
theorem site_ensure (b : Bench) (want : Dependent) (deadline : Instant) (policy : DriftPolicy) :
    b.site.carryOut policy (.ensure want deadline b.delays.waits) =
      (.ensured (b.perform (ensure deadline policy want)).1
          (b.perform (ensure deadline policy want)).2.1,
        (b.perform (ensure deadline policy want)).2.2.site) := rfl

end Rehearsal.Bench

end InstanceOperator
