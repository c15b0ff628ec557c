import InstanceOperator.Pass.Program

/-!
# Ensuring that a dependent exists

A dependent is looked up, and created if it is not there. One that is there is left as it is; at
most its differences from the desired one are reported.
-/

namespace InstanceOperator

/-- How ensuring a dependent ends. -/
inductive Outcome where
  /-- The dependent was there. -/
  | alreadyExists
  /-- The dependent was not there and has been created. -/
  | created
  /-- The dependent was not there, and someone else created it first. -/
  | createConflict
  /-- The dependent was not there, and creating it failed. -/
  | createFailed (cause : StoreError)
  /-- Looking the dependent up failed. -/
  | lookupFailed (cause : StoreError)
deriving DecidableEq, Repr

/-- Report the differences of an existing dependent, if there are any and the policy asks for it. -/
def reportDrift {α : Type} (policy : DriftPolicy) (want live : Dependent) (rest : Program α) :
    Program α :=
  if policy = .report ∧ detectDrift want live ≠ [] then
    .emit (.log (.drifted want.kind want.key (detectDrift want live)))
      (.emit (.count (.drifted want.kind)) rest)
  else rest

/-- How the result of a creation counts. -/
def settleCreate (want : Dependent) : Except StoreError Unit → Program Outcome
  | .ok () =>
    .emit (.log (.created want.kind want.key))
      (.emit (.count (.created want.kind)) (.done .created))
  | .error e => .done (if e.isAlreadyExists then .createConflict else .createFailed e)

/-- What follows from the result of a lookup. -/
def settleLookup (deadline : Instant) (policy : DriftPolicy) (want : Dependent) :
    Except StoreError Dependent → Program Outcome
  | .ok live => reportDrift policy want live (.done .alreadyExists)
  | .error e =>
    if e.isNotFound then .ask deadline (.create want) (settleCreate want)
    else .done (.lookupFailed e)

/-- Ensure by a deadline that a dependent exists. -/
def ensure (deadline : Instant) (policy : DriftPolicy) (want : Dependent) : Program Outcome :=
  .ask deadline (.get want.kind want.key) (settleLookup deadline policy want)

end InstanceOperator
