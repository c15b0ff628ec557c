/-!
# Blank characters

The characters of Unicode's `White_Space` property, and trimming by them. What remains of a trimmed
text begins and ends with a character that is not blank, and nothing inside it is touched.
-/

namespace InstanceOperator.Text

/-- The closed ranges of code points with the `White_Space` property, in increasing order. -/
def blankRanges : List (Nat × Nat) :=
  [(0x09, 0x0D), (0x20, 0x20), (0x85, 0x85), (0xA0, 0xA0), (0x1680, 0x1680), (0x2000, 0x200A),
   (0x2028, 0x2029), (0x202F, 0x202F), (0x205F, 0x205F), (0x3000, 0x3000)]

/-- Whether a character is white space in the sense of Unicode. -/
def isBlank (c : Char) : Bool :=
  blankRanges.any fun r => r.1 ≤ c.toNat && c.toNat ≤ r.2

/-- Twenty-five code points are blank. -/
example : (blankRanges.map fun r => r.2 - r.1 + 1).sum = 25 := by decide

/-- Drop the blank characters at both ends. -/
def trimChars (cs : List Char) : List Char :=
  ((cs.dropWhile isBlank).reverse.dropWhile isBlank).reverse

/-- A text without the blank characters at its ends. -/
def trim (s : String) : String :=
  String.ofList (trimChars s.toList)

/-- Lower-case the ASCII letters and leave every other character alone. -/
def lowerAscii (s : String) : String :=
  String.ofList (s.toList.map Char.toLower)

end InstanceOperator.Text
