import InstanceOperator.Json.Writer

/-!
# Writing YAML

The block form of a JSON value: a line for each member or item, members of inner objects indented
by two blanks, and items of inner arrays not indented. A text of several lines becomes a literal
block; a text that would read as something else is put between quotation marks.
-/

namespace InstanceOperator.Yaml

/-- Words that do not read as text. -/
def reserved : List String :=
  ["", "~", "null", "Null", "NULL", "true", "True", "TRUE", "false", "False", "FALSE"]

/-- The characters that a plain text may not begin with, letters and digits apart. -/
def isPlainStart (c : Char) : Bool :=
  c.isAlpha || c == '/' || c == '(' || c == '_'

/-- Whether a blank or the end follows a colon, or a number sign follows a blank. -/
def hasMark : List Char → Bool
  | [] => false
  | [c] => c == ':' || c == ' '
  | c :: d :: rest => (c == ':' && d == ' ') || (c == ' ' && d == '#') || hasMark (d :: rest)

/-- Whether a text of one line reads as itself. -/
def isPlain (s : String) : Bool :=
  !reserved.contains s && !hasMark s.toList && (s.toList.head?.map isPlainStart).getD false

/-- The form of a text on one line. -/
def textInline (s : String) : String :=
  if isPlain s then s else Json.writeString s

/-- The form of a value that takes no lines of its own. -/
def inline? : Json → Option String
  | .null => some "null"
  | .bool b => some (if b then "true" else "false")
  | .int n => some (toString n)
  | .real d => some d.scientific
  | .str s => if '\n' ∈ s.toList then none else some (textInline s)
  | .arr [] => some "[]"
  | .obj [] => some "\x7b\x7d"
  | _ => none

/-- Indent lines, empty ones apart. -/
def indent (lines : List String) : List String :=
  lines.map fun l => if l = "" then l else "  " ++ l

/-- Put a hyphen in front of the first line and indent the others. -/
def item : List String → List String
  | [] => []
  | first :: rest => ("- " ++ first) :: indent rest

/-- The lines of a text. -/
def textLines (s : String) : List String :=
  s.splitOn "\n"

mutual

/-- The lines of a value. -/
def lines : Json → List String
  | .str s => if '\n' ∈ s.toList then "|-" :: indent (textLines s) else [textInline s]
  | .arr (j :: js) => itemLines (j :: js)
  | .obj (m :: ms) => memberLines (m :: ms)
  | j => [(inline? j).getD ""]

/-- The lines of the items of an array. -/
def itemLines : List Json → List String
  | [] => []
  | j :: js => item (lines j) ++ itemLines js

/-- The lines of the members of an object. -/
def memberLines : List (String × Json) → List String
  | [] => []
  | (k, j) :: rest =>
    (match inline? j, j, lines j with
      | some text, _, _ => [k ++ ": " ++ text]
      | none, .obj _, ls => (k ++ ":") :: indent ls
      | none, .arr _, ls => (k ++ ":") :: ls
      | none, _, first :: ls => (k ++ ": " ++ first) :: ls
      | none, _, [] => [k ++ ":"])
      ++ memberLines rest

end

/-- The text of a document. -/
def write (j : Json) : String :=
  String.join ((lines j).map (· ++ "\n"))

end InstanceOperator.Yaml
