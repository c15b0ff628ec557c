import InstanceOperator.Json.Basic

/-!
# Members of objects

How typed values are read from and written to the members of JSON objects. A member that is absent
or `null` counts as not given; where a name occurs more than once every occurrence has to read and
the last one counts. Writing leaves out what is not given.
-/

namespace InstanceOperator.Json

variable {α : Type}

/-! ## Reading -/

/-- What the occurrences of one name give. -/
def lastOf (read : Json → Option α) : List Json → Option (Option α)
  | [] => some none
  | [j] => if j = .null then some none else (read j).map some
  | j :: js =>
    if j = .null then lastOf read js
    else match read j with
      | none => none
      | some _ => lastOf read js

/-- The value of an optional member. -/
def optional (read : Json → Option α) (name : String) (members : List (String × Json)) :
    Option (Option α) :=
  lastOf read (findAll name members)

/-- The value of a required member, with a default for one that is not given. -/
def required (read : Json → Option α) (default : α) (name : String)
    (members : List (String × Json)) : Option α :=
  (optional read name members).map (·.getD default)

/-- The value of a member that may occur once at most; the outer option is empty if it occurs more
often. -/
def single? (name : String) (members : List (String × Json)) : Option (Option Json) :=
  match findAll name members with
  | [] => some none
  | [j] => some (some j)
  | _ => none

/-- Whether every member of a name holds a given text. -/
def allEqual (name value : String) (members : List (String × Json)) : Bool :=
  (findAll name members).all fun j => j = .str value

/-- A list, each item of which reads. -/
def list? (read : Json → Option α) : Json → Option (List α)
  | .arr items => items.mapM read
  | _ => none

/-- Whether a number fits a signed type of so many bits. -/
def fits (bits : Nat) (n : Int) : Bool :=
  let bound : Int := Nat.pow 2 (bits - 1)
  0 ≤ n + bound && n < bound

def int32? : Json → Option Int32
  | .int n => if fits 32 n then some (Int32.ofInt n) else none
  | _ => none

def int64? : Json → Option Int64
  | .int n => if fits 64 n then some (Int64.ofInt n) else none
  | _ => none

/-! ## Writing -/

/-- The object of the members that are given. -/
def ofMembers (members : List (String × Option Json)) : Json :=
  .obj (members.filterMap fun m => m.2.map (m.1, ·))

def ofStr? (s : Option String) : Option Json := s.map .str

def ofInt32 (n : Int32) : Json := .int n.toInt

def ofInt64 (n : Int64) : Json := .int n.toInt

end InstanceOperator.Json
