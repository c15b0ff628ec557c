import InstanceOperator.Text.Blank

/-!
# Points in time

A point in time in UTC, read from and written as RFC 3339. Reading is lenient: parts of the date
and the time may lack leading zeros and may have blanks around them, a space may stand for the `T`,
and the offset may lack its colon. Writing gives whole seconds and `Z`.
-/

namespace InstanceOperator

/-- A point in time: seconds since the beginning of 1970 and nanoseconds beyond them. A leap second
is the preceding second with a thousand million nanoseconds more. -/
structure Timestamp where
  seconds : Int
  nanos : Nat
deriving DecidableEq, Repr

namespace Timestamp

/-! ## Calendar -/

/-- Days from the beginning of 1970 to a date, counting years from March on. -/
def daysFromCivil (year : Int) (month day : Nat) : Int :=
  let y := if month ≤ 2 then year - 1 else year
  let era := y / 400
  let yearOfEra := y - era * 400
  let shifted : Nat := if month > 2 then month - 3 else month + 9
  let dayOfYear : Nat := (153 * shifted + 2) / 5 + day - 1
  let dayOfEra := yearOfEra * 365 + yearOfEra / 4 - yearOfEra / 100 + dayOfYear
  era * 146097 + dayOfEra - 719468

/-- The date of a day counted from the beginning of 1970. -/
def civilFromDays (days : Int) : Int × Nat × Nat :=
  let z := days + 719468
  let era := z / 146097
  let dayOfEra : Nat := (z - era * 146097).toNat
  let yearOfEra : Nat := (dayOfEra - dayOfEra / 1460 + dayOfEra / 36524 - dayOfEra / 146096) / 365
  let dayOfYear := dayOfEra - (365 * yearOfEra + yearOfEra / 4 - yearOfEra / 100)
  let shifted := (5 * dayOfYear + 2) / 153
  let day := dayOfYear - (153 * shifted + 2) / 5 + 1
  let month := if shifted < 10 then shifted + 3 else shifted - 9
  (yearOfEra + era * 400 + (if month ≤ 2 then 1 else 0), month, day)

/-- Whether a year has a 29th of February. -/
def isLeapYear (year : Int) : Bool :=
  year % 4 == 0 && (year % 100 != 0 || year % 400 == 0)

/-- The number of days in a month. -/
def daysInMonth (year : Int) (month : Nat) : Nat :=
  if month = 2 then (if isLeapYear year then 29 else 28)
  else if month = 4 ∨ month = 6 ∨ month = 9 ∨ month = 11 then 30
  else 31

/-! ## Reading -/

/-- Drop blanks in front. -/
def skipBlanks (cs : List Char) : List Char :=
  cs.dropWhile Text.isBlank

/-- Take up to `most` decimal digits, at least one, and their value. -/
def takeNumber (most : Nat) (cs : List Char) : Option (Nat × List Char) :=
  let ds := (cs.takeWhile Char.isDigit).take most
  if ds = [] then none
  else some (ds.foldl (fun n c => n * 10 + (c.toNat - 48)) 0, cs.drop ds.length)

/-- Take a number of at most two digits with blanks in front. -/
def takePart (cs : List Char) : Option (Nat × List Char) :=
  takeNumber 2 (skipBlanks cs)

/-- Take a year: four digits at most, or any number of digits behind a sign. -/
def takeYear (cs : List Char) : Option (Int × List Char) :=
  match skipBlanks cs with
  | '-' :: rest => (takeNumber rest.length rest).map fun (n, r) => (-(n : Int), r)
  | '+' :: rest => (takeNumber rest.length rest).map fun (n, r) => ((n : Int), r)
  | rest => (takeNumber 4 rest).map fun (n, r) => ((n : Int), r)

/-- Take one given character with blanks in front. -/
def takeMark (mark : Char) (cs : List Char) : Option (List Char) :=
  match skipBlanks cs with
  | c :: rest => if c = mark then some rest else none
  | [] => none

/-- Take an optional fraction of a second, in nanoseconds; digits beyond the ninth do not count. -/
def takeFraction : List Char → Option (Nat × List Char)
  | '.' :: cs =>
    let digits := cs.takeWhile Char.isDigit
    if digits = [] then none
    else
      let nine := (digits ++ List.replicate 9 '0').take 9
      some (nine.foldl (fun n c => n * 10 + (c.toNat - 48)) 0, cs.dropWhile Char.isDigit)
  | cs => some (0, cs)

/-- Take exactly two digits. -/
def takeTwo : List Char → Option (Nat × List Char)
  | a :: b :: cs =>
    if a.isDigit ∧ b.isDigit then some ((a.toNat - 48) * 10 + (b.toNat - 48), cs) else none
  | _ => none

/-- Take the distance from UTC in seconds. -/
def takeOffset (cs : List Char) : Option (Int × List Char) :=
  match cs with
  | 'Z' :: rest => some (0, rest)
  | 'z' :: rest => some (0, rest)
  | u :: t :: c :: rest =>
    if u.toUpper = 'U' ∧ t.toUpper = 'T' ∧ c.toUpper = 'C' then some (0, rest)
    else
      let sign : Option Int :=
        if u = '+' then some 1 else if u = '-' ∨ u = '\u2212' then some (-1) else none
      match sign, takeTwo (t :: c :: rest) with
      | some s, some (hours, rest) =>
        match takeTwo (rest.dropWhile fun c => c == ':' || Text.isBlank c) with
        | some (minutes, rest) =>
          if minutes < 60 ∧ hours < 24 then some (s * (hours * 3600 + minutes * 60), rest) else none
        | none => none
      | _, _ => none
  | _ => none

/-- Read a point in time. -/
def read? (s : String) : Option Timestamp := do
  let (year, cs) ← takeYear s.toList
  let cs ← takeMark '-' cs
  let (month, cs) ← takePart cs
  let cs ← takeMark '-' cs
  let (day, cs) ← takePart cs
  let cs ← match cs with
    | c :: rest => if c = 'T' ∨ c = 't' ∨ c = ' ' then some rest else none
    | [] => none
  let (hour, cs) ← takePart cs
  let cs ← takeMark ':' cs
  let (minute, cs) ← takePart cs
  let cs ← takeMark ':' cs
  let (second, cs) ← takePart cs
  let (fraction, cs) ← takeFraction cs
  let (offset, cs) ← takeOffset (skipBlanks cs)
  if skipBlanks cs ≠ [] then none
  else if ¬(1 ≤ month ∧ month ≤ 12 ∧ 1 ≤ day ∧ day ≤ daysInMonth year month) then none
  else if ¬(hour < 24 ∧ minute < 60 ∧ second ≤ 60) then none
  else if year.natAbs > 262142 then none
  else
    let leap := if second = 60 then 1 else 0
    some
      { seconds :=
          daysFromCivil year month day * 86400 + (hour * 3600 + minute * 60 + (second - leap) : Nat)
            - offset
        nanos := fraction + leap * 1000000000 }

/-! ## Writing -/

/-- A number with zeros in front, to a width. -/
def padded (width n : Nat) : String :=
  let digits := Nat.toDigits 10 n
  String.ofList (List.replicate (width - digits.length) '0' ++ digits)

/-- The text in UTC, in whole seconds. -/
def text (t : Timestamp) : String :=
  let days := t.seconds / 86400
  let rest : Nat := (t.seconds - days * 86400).toNat
  let (year, month, day) := civilFromDays days
  let yearText :=
    if 0 ≤ year ∧ year ≤ 9999 then padded 4 year.toNat
    else (if year < 0 then "-" else "+") ++ padded 4 year.natAbs
  let second := rest % 60 + t.nanos / 1000000000
  yearText ++ "-" ++ padded 2 month ++ "-" ++ padded 2 day ++ "T" ++ padded 2 (rest / 3600) ++ ":"
    ++ padded 2 (rest / 60 % 60) ++ ":" ++ padded 2 second ++ "Z"

end Timestamp

end InstanceOperator
