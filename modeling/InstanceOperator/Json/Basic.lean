import InstanceOperator.Number.Shortest

/-!
# JSON values

A JSON value as a tree. Whole numbers are kept apart from numbers written with a point or an
exponent, because a field that wants a whole number accepts the former alone. The members of an
object keep the order in which they were read, repetitions included; `find?` looks at the last
member of a name, and `canonical` sorts the members by name and keeps the last of each.
-/

namespace InstanceOperator

open Number (Decimal)

inductive Json where
  | null
  | bool (b : Bool)
  | int (n : Int)
  | real (d : Decimal)
  | str (s : String)
  | arr (items : List Json)
  | obj (members : List (String × Json))
deriving Repr, Inhabited

namespace Json

/-! ## Equality -/

mutual

def decEq : (a b : Json) → Decidable (a = b)
  | .null, b => by cases b <;> first | exact isTrue rfl | exact isFalse (by simp)
  | .bool a, b => by
    cases b with
    | bool b => exact if h : a = b then isTrue (by rw [h]) else isFalse (by simp [h])
    | _ => exact isFalse (by simp)
  | .int a, b => by
    cases b with
    | int b => exact if h : a = b then isTrue (by rw [h]) else isFalse (by simp [h])
    | _ => exact isFalse (by simp)
  | .real a, b => by
    cases b with
    | real b => exact if h : a = b then isTrue (by rw [h]) else isFalse (by simp [h])
    | _ => exact isFalse (by simp)
  | .str a, b => by
    cases b with
    | str b => exact if h : a = b then isTrue (by rw [h]) else isFalse (by simp [h])
    | _ => exact isFalse (by simp)
  | .arr a, .arr b =>
    match decEqItems a b with
    | isTrue h => isTrue (by rw [h])
    | isFalse h => isFalse (by simp [h])
  | .arr _, .null => isFalse (by simp)
  | .arr _, .bool _ => isFalse (by simp)
  | .arr _, .int _ => isFalse (by simp)
  | .arr _, .real _ => isFalse (by simp)
  | .arr _, .str _ => isFalse (by simp)
  | .arr _, .obj _ => isFalse (by simp)
  | .obj a, .obj b =>
    match decEqMembers a b with
    | isTrue h => isTrue (by rw [h])
    | isFalse h => isFalse (by simp [h])
  | .obj _, .null => isFalse (by simp)
  | .obj _, .bool _ => isFalse (by simp)
  | .obj _, .int _ => isFalse (by simp)
  | .obj _, .real _ => isFalse (by simp)
  | .obj _, .str _ => isFalse (by simp)
  | .obj _, .arr _ => isFalse (by simp)

/-- Equality of lists of values is decidable. -/
def decEqItems : (a b : List Json) → Decidable (a = b)
  | [], [] => isTrue rfl
  | [], _ :: _ => isFalse (by simp)
  | _ :: _, [] => isFalse (by simp)
  | a :: as, b :: bs =>
    match decEq a b with
    | isFalse h => isFalse (by simp [h])
    | isTrue h =>
      match decEqItems as bs with
      | isTrue hs => isTrue (by rw [h, hs])
      | isFalse hs => isFalse (by simp [hs])

/-- Equality of lists of members is decidable. -/
def decEqMembers : (a b : List (String × Json)) → Decidable (a = b)
  | [], [] => isTrue rfl
  | [], _ :: _ => isFalse (by simp)
  | _ :: _, [] => isFalse (by simp)
  | (k, a) :: as, (l, b) :: bs =>
    if hk : k = l then
      match decEq a b with
      | isFalse h => isFalse (by simp [h])
      | isTrue h =>
        match decEqMembers as bs with
        | isTrue hs => isTrue (by rw [hk, h, hs])
        | isFalse hs => isFalse (by simp [hs])
    else isFalse (by simp [hk])

end

instance : DecidableEq Json := decEq

/-! ## Members -/

/-- The values of all members of a name, in order. -/
def findAll (name : String) (members : List (String × Json)) : List Json :=
  members.filterMap fun m => if m.1 = name then some m.2 else none

/-- The value of the last member of a name. -/
def find? (name : String) (members : List (String × Json)) : Option Json :=
  (findAll name members).getLast?

/-- The value of a member of an object; a value that is no object has none. -/
def get? : Json → String → Option Json
  | .obj members, name => find? name members
  | _, _ => none

/-- Put a member into a list sorted by name, in place of one of the same name. -/
def insertMember (name : String) (value : Json) : List (String × Json) → List (String × Json)
  | [] => [(name, value)]
  | (k, v) :: rest =>
    if name < k then (name, value) :: (k, v) :: rest
    else if name = k then (name, value) :: rest
    else (k, v) :: insertMember name value rest

mutual

/-- The same value with the members of every object sorted by name, the last of a name winning. -/
def canonical : Json → Json
  | .null => .null
  | .bool b => .bool b
  | .int n => .int n
  | .real d => .real d
  | .str s => .str s
  | .arr items => .arr (canonicalItems items)
  | .obj members => .obj (canonicalMembers members [])

/-- `canonical` on every item. -/
def canonicalItems : List Json → List Json
  | [] => []
  | j :: js => canonical j :: canonicalItems js

/-- Insert the members, each in canonical form, into a sorted list. -/
def canonicalMembers : List (String × Json) → List (String × Json) → List (String × Json)
  | [], sorted => sorted
  | (k, j) :: rest, sorted => canonicalMembers rest (insertMember k (canonical j) sorted)

end

/-! ## Views -/

def str? : Json → Option String
  | .str s => some s
  | _ => none

/-- The number of a whole-number value from zero up to `limit`. -/
def nat? (limit : Nat) : Json → Option Nat
  | .int n => if 0 ≤ n ∧ n ≤ limit then some n.toNat else none
  | _ => none

def bool? : Json → Option Bool
  | .bool b => some b
  | _ => none

def arr? : Json → Option (List Json)
  | .arr items => some items
  | _ => none

def obj? : Json → Option (List (String × Json))
  | .obj members => some members
  | _ => none

end Json

end InstanceOperator
