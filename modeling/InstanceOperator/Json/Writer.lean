import InstanceOperator.Json.Basic

/-!
# Writing JSON

The compact text of a JSON value: no blanks, the short escapes where there is one, lower-case
hexadecimal escapes for the other controls, and every other character as itself.
-/

namespace InstanceOperator.Json

def hexDigit (n : Nat) : Char :=
  Nat.digitChar n

/-- The written form of one character inside a string. -/
def escapeChar (c : Char) : List Char :=
  if c = '"' then ['\\', '"']
  else if c = '\\' then ['\\', '\\']
  else if c = '\x08' then ['\\', 'b']
  else if c = '\x0c' then ['\\', 'f']
  else if c = '\n' then ['\\', 'n']
  else if c = '\r' then ['\\', 'r']
  else if c = '\t' then ['\\', 't']
  else if c.toNat < 0x20 then
    ['\\', 'u', '0', '0', hexDigit (c.toNat / 16), hexDigit (c.toNat % 16)]
  else [c]

/-- A string as JSON text, quotation marks included. -/
def writeString (s : String) : String :=
  String.ofList ('"' :: s.toList.flatMap escapeChar ++ ['"'])

mutual

/-- The compact text of a value, behind the text written so far. -/
def writeOnto (out : String) : Json → String
  | .null => out ++ "null"
  | .bool b => out ++ (if b then "true" else "false")
  | .int n => out ++ toString n
  | .real d => out ++ d.scientific
  | .str s => out ++ writeString s
  | .arr items => writeItems (out ++ "[") true items ++ "]"
  | .obj members => writeMembers (out ++ "\x7b") true members ++ "\x7d"

/-- The items of an array, separated by commas. -/
def writeItems (out : String) (first : Bool) : List Json → String
  | [] => out
  | j :: js => writeItems (writeOnto (if first then out else out ++ ",") j) false js

/-- The members of an object, separated by commas. -/
def writeMembers (out : String) (first : Bool) : List (String × Json) → String
  | [] => out
  | (k, j) :: rest =>
    writeMembers (writeOnto ((if first then out else out ++ ",") ++ writeString k ++ ":") j) false
      rest

end

/-- The compact text of a value. -/
def write (j : Json) : String :=
  writeOnto "" j

end InstanceOperator.Json
