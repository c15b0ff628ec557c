import InstanceOperator.Json.Member
import InstanceOperator.Time.Timestamp

/-!
# Shapes of object fields

The cluster's object types have many fields that this program only carries along. A `Shape` says
what such a field may hold, and `Shape.read` checks a JSON value against it and brings the value
into one form: unknown members are dropped, absent and `null` members are left out unless they are
required, required ones get the empty value of their shape, points in time are written in UTC, and
members stand in the order of the shape. Elements of lists and values of maps may not be `null`.
-/

namespace InstanceOperator

/-- What a field may hold. -/
inductive Shape where
  | bool
  | int32
  | int64
  | string
  | timestamp
  /-- A 32-bit number or a string. -/
  | intOrString
  /-- Any value. -/
  | any
  | list (item : Shape)
  | map (value : Shape)
  /-- An object with fields of given names; the Boolean says whether a field is required. -/
  | object (fields : List (String × Bool × Shape))

namespace Shape

mutual

/-- The empty value of a shape. -/
def empty : Shape → Json
  | .bool => .bool false
  | .int32 => .int 0
  | .int64 => .int 0
  | .string => .str ""
  | .timestamp => .str "1970-01-01T00:00:00Z"
  | .intOrString => .int 0
  | .any => .null
  | .list _ => .arr []
  | .map _ => .obj []
  | .object fields => .obj (emptyFields fields)

/-- The required fields of a shape with their empty values. -/
def emptyFields : List (String × Bool × Shape) → List (String × Json)
  | [] => []
  | (name, isRequired, shape) :: rest =>
    if isRequired then (name, empty shape) :: emptyFields rest else emptyFields rest

end

mutual

/-- The value in the form of the shape, if it fits. -/
def read : Shape → Json → Option Json
  | .bool, j => match j with
    | .bool b => some (.bool b)
    | _ => none
  | .int32, j => match j with
    | .int n => if Json.fits 32 n then some (.int n) else none
    | _ => none
  | .int64, j => match j with
    | .int n => if Json.fits 64 n then some (.int n) else none
    | _ => none
  | .string, j => match j with
    | .str s => some (.str s)
    | _ => none
  | .timestamp, j => match j with
    | .str s => (Timestamp.read? s).map fun t => .str t.text
    | _ => none
  | .intOrString, j => match j with
    | .int n => if Json.fits 32 n then some (.int n) else none
    | .str s => some (.str s)
    | _ => none
  | .any, j => some j.canonical
  | .list item, j => match j with
    | .arr items => (items.mapM (read item)).map .arr
    | _ => none
  | .map value, j => match j with
    | .obj members =>
      (members.mapM fun m => (read value m.2).map (m.1, ·)).map
        fun ms => .obj (ms.foldl (fun sorted m => Json.insertMember m.1 m.2 sorted) [])
    | _ => none
  | .object fields, j => match j with
    | .obj members => (readFields fields members).map .obj
    | _ => none

/-- The fields of an object in the form of their shapes. -/
def readFields : List (String × Bool × Shape) → List (String × Json) → Option (List (String × Json))
  | [], _ => some []
  | (name, isRequired, shape) :: rest, members =>
    match Json.optional (read shape) name members, readFields rest members with
    | some (some j), some js => some ((name, j) :: js)
    | some none, some js => some (if isRequired then (name, empty shape) :: js else js)
    | _, _ => none

end

def opt (name : String) (shape : Shape) : String × Bool × Shape := (name, false, shape)

def req (name : String) (shape : Shape) : String × Bool × Shape := (name, true, shape)

end Shape

end InstanceOperator
