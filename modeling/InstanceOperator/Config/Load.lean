import InstanceOperator.Config.Basic

/-!
# Loading the configuration

Each setting is looked up by the name of its variable. Blanks around a value do not count, and a
value that is blank counts as not given. A value that is given must read; only when all of them do
are their ranges checked.
-/

namespace InstanceOperator

/-- A way to look up variables by name. -/
abbrev Lookup := String → Option String

/-- The value of a setting, if it is given. -/
def Setting.given? (s : Setting) (lookup : Lookup) : Option String :=
  ((lookup s.name).map Text.trim).filter (· ≠ "")

/-- The value of a setting, or a default if it is not given. -/
def Setting.load {α : Type} (s : Setting) (lookup : Lookup)
    (read : String → Except ValueFault α) (default : α) : Except ConfigFault α :=
  match s.given? lookup with
  | none => .ok default
  | some raw =>
    match read raw with
    | .ok a => .ok a
    | .error fault => .error (.badValue s raw fault)

def readUInt16 (raw : String) : Except ValueFault UInt16 :=
  match Text.readNatural (UInt16.size - 1) raw with
  | .ok n => .ok (UInt16.ofNat n)
  | .error fault => .error (.number fault)

/-- Read a span of time given as a 64-bit number of some unit. -/
def readSpan (ofCount : Nat → Duration) (raw : String) : Except ValueFault Duration :=
  match Text.readNatural (UInt64.size - 1) raw with
  | .ok n => .ok (ofCount n)
  | .error fault => .error (.number fault)

def readPolicy (raw : String) : Except ValueFault DriftPolicy :=
  match DriftPolicy.ofName? raw with
  | some policy => .ok policy
  | none => .error (.policy raw)

namespace Config

/-- Read every setting that is given. -/
def read (lookup : Lookup) : Except ConfigFault Config := do
  -- of several settings that do not read, the first in this order is reported
  let base : Config := {}
  return {
    ns := Setting.ns.given? lookup
    concurrency := ← Setting.concurrency.load lookup readUInt16 base.concurrency
    debounce := ← Setting.debounce.load lookup (readSpan Duration.ofMillis) base.debounce
    passTimeout := ← Setting.passTimeout.load lookup (readSpan Duration.ofSecs) base.passTimeout
    backoffMin := ← Setting.backoffMin.load lookup (readSpan Duration.ofSecs) base.backoffMin
    backoffMax := ← Setting.backoffMax.load lookup (readSpan Duration.ofSecs) base.backoffMax
    driftPolicy := ← Setting.driftPolicy.load lookup readPolicy base.driftPolicy
    metricsPort := ← Setting.metricsPort.load lookup readUInt16 base.metricsPort }

/-- The first setting that is out of range. -/
def rangeFault? (c : Config) : Option ConfigFault :=
  if c.concurrency = 0 then some (.zero .concurrency)
  else if c.passTimeout = Duration.zero then some (.zero .passTimeout)
  else if c.backoffMin = Duration.zero then some (.zero .backoffMin)
  else if c.backoffMax.toNanos < c.backoffMin.toNanos then
    some (.backoffOrder c.backoffMax.secs c.backoffMin.secs)
  else none

/-- Load the configuration through a lookup. -/
def load (lookup : Lookup) : Except ConfigFault Config :=
  match read lookup with
  | .error fault => .error fault
  | .ok c =>
    match c.rangeFault? with
    | some fault => .error fault
    | none => .ok c

end Config

/-! ## Environments -/

/-- The variables of a process. Their values are bytes, which need not form a text. -/
abbrev Environment := List (String × ByteArray)

/-- Look a variable up; a value that is no text counts as not given. -/
def Environment.lookup (env : Environment) : Lookup := fun name =>
  (List.lookup name env).bind String.fromUTF8?

/-- Load the configuration from the variables of a process. -/
def Config.ofEnvironment (env : Environment) : Except ConfigFault Config :=
  load env.lookup

end InstanceOperator
