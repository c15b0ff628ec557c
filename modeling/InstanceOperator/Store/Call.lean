import InstanceOperator.Store.Error

/-!
# Calls to the store

What the operator asks of the store that holds its objects: an instance, a dependent, or the
creation of a dependent.
-/

namespace InstanceOperator

inductive Call where
  | getInstance (key : ObjectKey)
  | get (kind : Kind) (key : ObjectKey)
  | create (object : Dependent)
deriving DecidableEq

namespace Call

/-- What a call yields when it succeeds. -/
abbrev Value : Call → Type
  | .getInstance _ => Instance
  | .get _ _ => Dependent
  | .create _ => Unit

/-- How a call ends. -/
abbrev Result (c : Call) : Type := Except StoreError c.Value

/-- What the call is about, as errors name it. -/
def target : Call → String
  | .getInstance key => instanceKind ++ " " ++ key.text
  | .get kind key => kind.name ++ " " ++ key.text
  | .create object => object.describe

/-- The error of a call that was given up when the time of its pass ran out. -/
def expired (c : Call) : StoreError :=
  .cancelled (c.target ++ ": pass deadline elapsed")

end Call

/-- A call as the store remembers it, without the object to be created. -/
inductive CallRecord where
  | getInstance (key : ObjectKey)
  | get (kind : Kind) (key : ObjectKey)
  | create (kind : Kind) (key : ObjectKey)
deriving DecidableEq, Repr

def Call.record : Call → CallRecord
  | .getInstance key => .getInstance key
  | .get kind key => .get kind key
  | .create object => .create object.kind object.key

def CallRecord.text : CallRecord → String
  | .getInstance key => "GetInstance " ++ key.text
  | .get kind key => "Get " ++ kind.name ++ " " ++ key.text
  | .create kind key => "Create " ++ kind.name ++ " " ++ key.text

end InstanceOperator
