import InstanceOperator.Log.Level
import InstanceOperator.Text.Blank
import InstanceOperator.Text.Natural

/-!
# Log filters

Which lines of the log are shown. A filter is a list of directives between commas, each with a
level, a target, or both; the directive with the longest target that a line's target begins with
decides, and a line is shown if its level is at least as urgent as the directive's.
-/

namespace InstanceOperator.Log

/-- How much is shown: nothing, or everything up to a level; `verbose` levels lie beyond the levels
that this program writes. -/
inductive Threshold where
  | off
  | upTo (level : Level)
  | verbose
deriving DecidableEq, Repr

def Threshold.shows (t : Threshold) (level : Level) : Bool :=
  match t with
  | .off => false
  | .upTo limit => level.rank ≤ limit.rank
  | .verbose => true

/-- The thresholds in increasing order, with their names. -/
def Threshold.names : List (String × Threshold) :=
  [("off", .off), ("error", .upTo .error), ("warn", .upTo .warn), ("info", .upTo .info),
   ("debug", .verbose), ("trace", .verbose)]

/-- The threshold of a name, in any mixture of upper and lower case, or of a number. -/
def Threshold.ofName? (s : String) : Option Threshold :=
  match Text.readNatural (names.length - 1) s with
  | .ok n => names[n]?.map (·.2)
  | .error _ => names.lookup (Text.lowerAscii s)

/-- A directive: what is shown of the targets that begin with a text, or only inside of spans. -/
structure Directive where
  target : String := ""
  /-- Whether the directive applies inside of spans alone, of which this program has none. -/
  inSpans : Bool := false
  threshold : Threshold
deriving DecidableEq, Repr

/-! ## Reading directives -/

/-- A directive as it is written. -/
structure Written where
  target : List Char
  inSpans : Bool
  /-- What stands behind the equals sign, if there is one. -/
  level : Option (List Char)
deriving DecidableEq, Repr

/-- What stands behind the fields of a span, whose opening brace has been read. -/
def behindFields? (cs : List Char) : Option (List Char) :=
  match cs.span (· ≠ '\x7d') with
  | (fields, '\x7d' :: ']' :: rest) =>
    if fields = [] ∨ fields.getLast? = some ',' then none else some rest
  | _ => none

/-- What stands behind a span, whose opening bracket has been read. -/
def behindSpan? (cs : List Char) : Option (List Char) :=
  match cs.dropWhile fun c => c ≠ ']' && c ≠ '\x7b' with
  | ']' :: rest => some rest
  | '\x7b' :: rest => behindFields? rest
  | _ => none

/-- Take a directive apart: a target or a span or both, and a level or none. -/
def written? (cs : List Char) : Option Written :=
  match cs.span fun c => c ≠ '=' && c ≠ '[' with
  | (target, '[' :: inner) =>
    match behindSpan? inner with
    | some [] => some ⟨target, true, none⟩
    | some ('=' :: level) => some ⟨target, true, some level⟩
    | _ => none
  | ([], _) => none
  | (target, '=' :: level) => some ⟨target, false, some level⟩
  | (target, _) => some ⟨target, false, none⟩

/-- Whether a directive may begin with a character. Beyond ASCII every character may. -/
def isDirectiveStart (c : Char) : Bool :=
  c.isAlphanum || c == '-' || c == ':' || c == '_' || c == '[' || 0x80 ≤ c.toNat

/-- What a directive without blanks at its ends says. Without a level it shows everything, and a
target that is the name of a level is none. -/
def Written.directive? (w : Written) : Option Directive :=
  let target := String.ofList w.target
  match w.level with
  | some [] => some { target, inSpans := w.inSpans, threshold := .verbose }
  | some name =>
    (Threshold.ofName? (String.ofList name)).map
      fun threshold => { target, inSpans := w.inSpans, threshold }
  | none =>
    match w.inSpans, Threshold.ofName? target with
    | false, some threshold => some { threshold := threshold }
    | inSpans, _ => some { target, inSpans, threshold := .verbose }

/-- Read a directive. Blanks at its ends are no offence, but with them no level reads, and the
target keeps them. -/
def Directive.read? (s : String) : Option Directive :=
  let inner := Text.trimChars s.toList
  if (inner.head?.map isDirectiveStart).getD false then
    match written? inner with
    | none => none
    | some w =>
      if inner = s.toList then w.directive?
      else if w.level.isSome then none
      else some { target := s, inSpans := w.inSpans, threshold := .verbose }
  else none

abbrev Filter := List Directive

namespace Filter

/-- The filter that shows everything down to a level. -/
def level (l : Level) : Filter := [{ threshold := .upTo l }]

/-- Read a filter. A text without directives shows errors alone. -/
def read? (s : String) : Option Filter :=
  ((s.splitOn ",").filter (· ≠ "")).mapM Directive.read? |>.map fun directives =>
    if directives.isEmpty then level .error else directives

/-- The directive that decides about a target: the last one of those with the longest matching
target. -/
def deciding? (f : Filter) (target : String) : Option Directive :=
  (f.filter fun d => !d.inSpans && d.target.toList.isPrefixOf target.toList).foldl
    (fun best d => match best with
      | none => some d
      | some b => if b.target.length ≤ d.target.length then some d else some b)
    none

/-- Whether a line of a level and a target is shown. -/
def shows (f : Filter) (l : Level) (target : String) : Bool :=
  match f.deciding? target with
  | none => false
  | some d => d.threshold.shows l

end Filter

end InstanceOperator.Log
