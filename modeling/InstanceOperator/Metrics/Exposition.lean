/-!
# Exposition of metrics

The text in which metrics are published: for each family a line with its purpose and one with its
type, and then a line for each sample.
-/

namespace InstanceOperator.Metrics

inductive FamilyType where
  | counter
  | histogram
deriving DecidableEq, Repr

def FamilyType.name : FamilyType → String
  | .counter => "counter"
  | .histogram => "histogram"

/-- A value of a family, told from others by a suffix of the name and by labels. -/
structure Sample where
  suffix : String := ""
  labels : List (String × String) := []
  value : String
deriving DecidableEq, Repr

/-- Metrics of one name. -/
structure Family where
  name : String
  help : String
  type : FamilyType
  samples : List Sample
deriving DecidableEq, Repr

/-- The written form of a character of a label's value. -/
def escapeChar (c : Char) : List Char :=
  if c = '\\' then ['\\', '\\']
  else if c = '"' then ['\\', '"']
  else if c = '\n' then ['\\', 'n']
  else [c]

/-- The written form of a label's value. -/
def escape (value : String) : String :=
  String.ofList (value.toList.flatMap escapeChar)

def labelText (label : String × String) : String :=
  label.1 ++ "=\"" ++ escape label.2 ++ "\""

def labelsText (labels : List (String × String)) : String :=
  if labels.isEmpty then ""
  else "\x7b" ++ ",".intercalate (labels.map labelText) ++ "\x7d"

def Sample.line (s : Sample) (family : String) : String :=
  family ++ s.suffix ++ labelsText s.labels ++ " " ++ s.value

/-- The lines of a family; one without samples has none. -/
def Family.lines (f : Family) : List String :=
  if f.samples.isEmpty then []
  else ("# HELP " ++ f.name ++ " " ++ f.help) :: ("# TYPE " ++ f.name ++ " " ++ f.type.name)
    :: f.samples.map (·.line f.name)

end InstanceOperator.Metrics
