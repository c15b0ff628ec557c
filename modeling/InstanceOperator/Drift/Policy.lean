import InstanceOperator.Text.Blank

/-!
# Drift policy

What happens when an existing dependent differs from the desired one. It is never corrected.
-/

namespace InstanceOperator

/-- Whether differences are looked for. -/
inductive DriftPolicy where
  /-- Any existing dependent is accepted. -/
  | ignore
  /-- Differences are logged and counted. -/
  | report
deriving DecidableEq, Repr, Inhabited

namespace DriftPolicy

def name : DriftPolicy → String
  | .ignore => "ignore"
  | .report => "report"

/-- The policy of a name, in any mixture of upper and lower case. -/
def ofName? (s : String) : Option DriftPolicy :=
  let lowered := Text.lowerAscii s
  if lowered = "ignore" then some .ignore
  else if lowered = "report" then some .report
  else none

/-- The refusal of a text that names no policy. -/
def refusal (s : String) : String :=
  "expected 'ignore' or 'report', got '" ++ Text.lowerAscii s ++ "'"

end DriftPolicy

end InstanceOperator
