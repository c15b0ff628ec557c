/-!
# Decimal numbers in text

Reading an unsigned number: an optional plus sign and then decimal digits, leading zeros allowed,
up to a given greatest value. The text is read from the left and the first offence decides the
refusal: a character that is no digit, or a digit that takes the value above the limit.
-/

namespace InstanceOperator.Text

/-- Why a text is not a number of the wanted type. -/
inductive NumberFault where
  /-- There is no text at all. -/
  | empty
  /-- A character is not a decimal digit, or no digit follows the sign. -/
  | invalidDigit
  /-- The value exceeds the greatest number of the type. -/
  | tooLarge
deriving DecidableEq, Repr

def NumberFault.message : NumberFault → String
  | .empty => "cannot parse integer from empty string"
  | .invalidDigit => "invalid digit found in string"
  | .tooLarge => "number too large to fit in target type"

/-- The value of an ASCII decimal digit. -/
def digit? (c : Char) : Option Nat :=
  if '0' ≤ c ∧ c ≤ '9' then some (c.toNat - '0'.toNat) else none

/-- Continue a number whose digits so far have the value `value`. -/
def readDigits (limit value : Nat) : List Char → Except NumberFault Nat
  | [] => .ok value
  | c :: cs =>
    match digit? c with
    | none => .error .invalidDigit
    | some d =>
      if value * 10 + d ≤ limit then readDigits limit (value * 10 + d) cs else .error .tooLarge

/-- The digits of a number without its optional plus sign. -/
def dropPlus : List Char → List Char
  | '+' :: cs => cs
  | cs => cs

/-- Read an unsigned decimal number of at most `limit`. -/
def readNatural (limit : Nat) (s : String) : Except NumberFault Nat :=
  match s.toList with
  | [] => .error .empty
  | cs =>
    match dropPlus cs with
    | [] => .error .invalidDigit
    | ds => readDigits limit 0 ds

end InstanceOperator.Text
