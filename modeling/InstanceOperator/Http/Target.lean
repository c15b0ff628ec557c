/-!
# Request targets

The path and query by which a request names a resource. Most characters stand for themselves; a
question mark ends the path, and a number sign ends the target.
-/

namespace InstanceOperator.Http

structure Target where
  path : String
  query : Option String := none
deriving DecidableEq, Repr

/-- The greatest length of a written target, in bytes. -/
def targetLimit : Nat := 65534

/-- The code points that a path may hold, as closed ranges. -/
def pathRanges : List (Nat × Nat) :=
  [(0x21, 0x22), (0x24, 0x3b), (0x3d, 0x3d), (0x40, 0x5f), (0x61, 0x7e), (0x7f, 0x10ffff)]

/-- The code points that a query may hold, as closed ranges. -/
def queryRanges : List (Nat × Nat) :=
  [(0x21, 0x21), (0x24, 0x3b), (0x3d, 0x3d), (0x3f, 0x7e), (0x7f, 0x10ffff)]

/-- Whether a character lies in one of the ranges. -/
def inRanges (ranges : List (Nat × Nat)) (c : Char) : Bool :=
  ranges.any fun r => r.1 ≤ c.toNat && c.toNat ≤ r.2

/-- A character of the name of a server. -/
def isHostChar (c : Char) : Bool :=
  c.isAlphanum || "-._~!$&'()*+,;=:".toList.contains c

/-- Whether characters name a server: there are some, and one colon at most, in front of a port. -/
def isAuthority (cs : List Char) : Bool :=
  !cs.isEmpty && cs.all isHostChar && cs.count ':' ≤ 1

/-- A character of the name of a scheme. -/
def isSchemeChar (c : Char) : Bool :=
  c.isAlphanum || c == '+' || c == '-' || c == '.'

/-- What stands behind a scheme and its colon and slashes. -/
def behindScheme? (cs : List Char) : Option (List Char) :=
  match cs.takeWhile isSchemeChar, cs.dropWhile isSchemeChar with
  | _ :: _, ':' :: '/' :: '/' :: rest => some rest
  | _, _ => none

namespace Target

/-- Read a path with an optional query. -/
def readPath? (cs : List Char) : Option Target :=
  let cs := cs.takeWhile (· ≠ '#')
  let path := cs.takeWhile (· ≠ '?')
  if !path.all (inRanges pathRanges) then none
  else match cs.dropWhile (· ≠ '?') with
    | [] => some ⟨String.ofList path, none⟩
    | _ :: query =>
      if query.all (inRanges queryRanges) then
        some ⟨String.ofList path, some (String.ofList query)⟩
      else none

/-- Read the target of an address whose scheme has been read. -/
def readAddress? (cs : List Char) : Option Target :=
  let inAuthority (c : Char) : Bool := c ≠ '/' && c ≠ '?' && c ≠ '#'
  if isAuthority (cs.takeWhile inAuthority) then
    match cs.dropWhile inAuthority with
    | '/' :: path => readPath? ('/' :: path)
    | tail => readPath? ('/' :: tail)
  else none

/-- Read a target: a path with an optional query, a star, a whole address, or the name of a server,
which has no path. -/
def read? (s : String) : Option Target :=
  if targetLimit < s.utf8ByteSize then none
  else match s.toList with
    | '/' :: path => readPath? ('/' :: path)
    | ['*'] => some ⟨"*", none⟩
    | cs =>
      match behindScheme? cs with
      | some rest => readAddress? rest
      | none => if isAuthority cs then some ⟨"", none⟩ else none

def text (t : Target) : String :=
  match t.query with
  | none => t.path
  | some query => t.path ++ "?" ++ query

end Target

end InstanceOperator.Http
