/-!
# Names of the domain name system

The two forms of name that the cluster accepts for objects: a *label* begins with a letter, and a
*subdomain* is a sequence of parts between dots, each of which may also begin with a digit. Inside
stand lower-case letters, digits and hyphens, and a hyphen stands neither first nor last. Names are
looked at byte by byte, and lengths are counted in bytes.
-/

namespace InstanceOperator.Dns

/-- The greatest length of a label. -/
def labelLimit : Nat := 63

/-- The greatest length of a subdomain. -/
def subdomainLimit : Nat := 253

/-! ## Bytes -/

def bytesOf (cs : List Char) : List UInt8 :=
  cs.flatMap String.utf8EncodeChar

def isLower (b : UInt8) : Bool :=
  97 ≤ b && b ≤ 122

def isDigit (b : UInt8) : Bool :=
  48 ≤ b && b ≤ 57

/-- A letter of either case, or a digit. -/
def isAlphanumeric (b : UInt8) : Bool :=
  isLower b || (65 ≤ b && b ≤ 90) || isDigit b

/-- A lower-case letter, a digit or a hyphen. -/
def isInner (b : UInt8) : Bool :=
  isLower b || isDigit b || b == 45

/-- Whether bytes follow the rules for a part whose first byte is of a given class. The last byte
may be of either case by its own check, but not by that of all bytes. -/
def isPart (first : UInt8 → Bool) (bytes : List UInt8) : Bool :=
  !bytes.isEmpty && bytes.head?.any first && bytes.getLast?.any isAlphanumeric && bytes.all isInner

/-! ## Names -/

/-- Split characters at every dot. -/
def splitDots : List Char → List (List Char)
  | [] => [[]]
  | c :: cs =>
    if c = '.' then [] :: splitDots cs
    else match splitDots cs with
      | part :: parts => (c :: part) :: parts
      | [] => [[c]]

def isLabel (s : String) : Bool :=
  s.utf8ByteSize ≤ labelLimit && isPart isLower (bytesOf s.toList)

def isSubdomain (s : String) : Bool :=
  s ≠ "" && s.utf8ByteSize ≤ subdomainLimit &&
    (splitDots s.toList).all fun part => isPart isAlphanumeric (bytesOf part)

end InstanceOperator.Dns
