import InstanceOperator.Json.Basic

/-!
# Reading JSON

Text is read in two passes, both by plain recursion on what is left. `Scan` turns characters into
tokens, one character at a time, and `Build` turns tokens into a value with a stack of the arrays
and objects still open. A whole number that no 64-bit integer holds is read as a real number, and
so is negative zero. More than 128 open arrays and objects are refused.
-/

namespace InstanceOperator.Json

open Number (Decimal shortest isNonFinite)

/-! ## Tokens -/

inductive Token where
  | openObject | closeObject | openArray | closeArray | comma | colon
  | literal (value : Json)
deriving Repr

/-- What the scanner is in the middle of. Characters collected so far stand in reverse order. -/
inductive Scan where
  /-- Between two tokens. -/
  | idle
  /-- Inside a string. -/
  | string (chars : List Char)
  /-- Behind a backslash. -/
  | escape (chars : List Char)
  /-- Inside a `\u` escape: digits read, their value, and the first half of a pair if there is
  one. -/
  | unicode (chars : List Char) (digits value : Nat) (first : Option Nat)
  /-- Behind the first half of a surrogate pair: whether the backslash of the second was read. -/
  | second (chars : List Char) (first : Nat) (backslash : Bool)
  /-- Inside a number. -/
  | number (chars : List Char)
  /-- Inside a word. -/
  | word (chars : List Char)

/-- The scanner's state with the tokens found so far, in reverse order. -/
structure Scanner where
  state : Scan
  tokens : List Token

/-! ### Numbers -/

def spanDigits (cs : List Char) : List Char × List Char :=
  (cs.takeWhile Char.isDigit, cs.dropWhile Char.isDigit)

/-- The value of a list of decimal digits. -/
def digitsValue (cs : List Char) : Nat :=
  cs.foldl (fun n c => n * 10 + (c.toNat - 48)) 0

/-- The exponent part of a number: none, or a mark, an optional sign and at least one digit. -/
def exponent? : List Char → Option (Option Int)
  | [] => some none
  | e :: cs =>
    if e = 'e' ∨ e = 'E' then
      let (negative, ds) := match cs with
        | '-' :: ds => (true, ds)
        | '+' :: ds => (false, ds)
        | ds => (false, ds)
      if ds ≠ [] ∧ ds.all Char.isDigit then
        some (some (if negative then -(digitsValue ds : Int) else digitsValue ds))
      else none
    else none

/-- Powers of ten beyond which every number is too large for a double, or rounds to zero. -/
def exponentLimit : Int := 400

/-- The double nearest to `n * 10 ^ e`, in its shortest decimal form; none above all doubles. -/
def real? (negative : Bool) (n : Nat) (e : Int) : Option Json :=
  let magnitude := e + (Nat.toDigits 10 n).length
  if n = 0 ∨ magnitude < -exponentLimit then some (.real ⟨negative, 0, 0⟩)
  else if exponentLimit < magnitude then none
  else
    let bits := (Float.ofScientific n (e < 0) e.natAbs).toBits.toNat
    if isNonFinite bits then none else some (.real { shortest bits with negative })

/-- The value of a number's text. -/
def number? (cs : List Char) : Option Json :=
  let (negative, cs) := match cs with
    | '-' :: ds => (true, ds)
    | ds => (false, ds)
  let (whole, rest) := spanDigits cs
  -- a number has no leading zeros
  if whole = [] ∨ (whole.head? = some '0' ∧ whole.length ≠ 1) then none
  else
    let n := digitsValue whole
    match rest with
    | [] =>
      if negative then
        -- no integer keeps the sign of zero
        if n ≠ 0 ∧ n ≤ UInt64.size / 2 then some (.int (-(n : Int))) else real? true n 0
      else if n < UInt64.size then some (.int n) else real? false n 0
    | '.' :: rest =>
      let (fraction, rest) := spanDigits rest
      if fraction = [] then none
      else
        match exponent? rest with
        | none => none
        | some e => real? negative (digitsValue (whole ++ fraction)) (e.getD 0 - fraction.length)
    | rest =>
      match exponent? rest with
      | none => none
      | some e => real? negative n (e.getD 0)

/-! ### Scanning -/

/-- The value of a word. -/
def word? (cs : List Char) : Option Json :=
  if cs = ['t', 'r', 'u', 'e'] then some (.bool true)
  else if cs = ['f', 'a', 'l', 's', 'e'] then some (.bool false)
  else if cs = ['n', 'u', 'l', 'l'] then some .null
  else none

/-- The character of a short escape. -/
def shortEscape? (c : Char) : Option Char :=
  if c = '"' ∨ c = '\\' ∨ c = '/' then some c
  else if c = 'b' then some '\x08'
  else if c = 'f' then some '\x0c'
  else if c = 'n' then some '\n'
  else if c = 'r' then some '\r'
  else if c = 't' then some '\t'
  else none

def hexValue? (c : Char) : Option Nat :=
  if '0' ≤ c ∧ c ≤ '9' then some (c.toNat - '0'.toNat)
  else if 'a' ≤ c ∧ c ≤ 'f' then some (c.toNat - 'a'.toNat + 10)
  else if 'A' ≤ c ∧ c ≤ 'F' then some (c.toNat - 'A'.toNat + 10)
  else none

/-- Whether a character can stand in a number. -/
def isNumberChar (c : Char) : Bool :=
  c.isDigit || c == '-' || c == '+' || c == '.' || c == 'e' || c == 'E'

/-- Finish a `\u` escape of value `v`. -/
def finishUnicode (chars : List Char) (v : Nat) : Option Nat → Option Scan
  | none =>
    if 0xD800 ≤ v ∧ v < 0xDC00 then some (.second chars v false)
    else if 0xDC00 ≤ v ∧ v < 0xE000 then none
    else some (.string (Char.ofNat v :: chars))
  | some first =>
    if 0xDC00 ≤ v ∧ v < 0xE000 then
      some (.string (Char.ofNat (0x10000 + (first - 0xD800) * 0x400 + (v - 0xDC00)) :: chars))
    else none

/-- Scan a character between two tokens. -/
def scanIdle (tokens : List Token) (c : Char) : Option Scanner :=
  if c = ' ' ∨ c = '\t' ∨ c = '\n' ∨ c = '\r' then some ⟨.idle, tokens⟩
  else if c = '\x7b' then some ⟨.idle, .openObject :: tokens⟩
  else if c = '\x7d' then some ⟨.idle, .closeObject :: tokens⟩
  else if c = '[' then some ⟨.idle, .openArray :: tokens⟩
  else if c = ']' then some ⟨.idle, .closeArray :: tokens⟩
  else if c = ',' then some ⟨.idle, .comma :: tokens⟩
  else if c = ':' then some ⟨.idle, .colon :: tokens⟩
  else if c = '"' then some ⟨.string [], tokens⟩
  else if c.isDigit ∨ c = '-' then some ⟨.number [c], tokens⟩
  else if c.isAlpha then some ⟨.word [c], tokens⟩
  else none

/-- The token of a finished number or word, in front of the tokens so far. -/
def finish (s : Scanner) : Option (List Token) :=
  match s.state with
  | .idle => some s.tokens
  | .number cs => (number? cs.reverse).map fun v => .literal v :: s.tokens
  | .word cs => (word? cs.reverse).map fun v => .literal v :: s.tokens
  | _ => none

def scanChar (s : Scanner) (c : Char) : Option Scanner :=
  match s.state with
  | .idle => scanIdle s.tokens c
  | .string cs =>
    if c = '"' then some ⟨.idle, .literal (.str (String.ofList cs.reverse)) :: s.tokens⟩
    else if c = '\\' then some ⟨.escape cs, s.tokens⟩
    else if c.toNat < 0x20 then none
    else some ⟨.string (c :: cs), s.tokens⟩
  | .escape cs =>
    if c = 'u' then some ⟨.unicode cs 0 0 none, s.tokens⟩
    else (shortEscape? c).map fun d => ⟨.string (d :: cs), s.tokens⟩
  | .unicode cs n v first =>
    match hexValue? c with
    | none => none
    | some d =>
      if n = 3 then (finishUnicode cs (v * 16 + d) first).map (⟨·, s.tokens⟩)
      else some ⟨.unicode cs (n + 1) (v * 16 + d) first, s.tokens⟩
  | .second cs first false => if c = '\\' then some ⟨.second cs first true, s.tokens⟩ else none
  | .second cs first true =>
    if c = 'u' then some ⟨.unicode cs 0 0 (some first), s.tokens⟩ else none
  | .number cs =>
    if isNumberChar c then some ⟨.number (c :: cs), s.tokens⟩
    else (finish s).bind (scanIdle · c)
  | .word cs =>
    if c.isAlpha then some ⟨.word (c :: cs), s.tokens⟩ else (finish s).bind (scanIdle · c)

def tokens? (cs : List Char) : Option (List Token) :=
  ((cs.foldlM scanChar ⟨.idle, []⟩).bind finish).map List.reverse

/-! ## Values -/

/-- An array or object still open; its parts so far stand in reverse order. -/
inductive Frame where
  | items (done : List Json)
  | members (done : List (String × Json)) (name : String)

/-- What the builder waits for. -/
inductive Want where
  /-- A value. -/
  | value
  /-- The first item of an array, or its end. -/
  | itemOrEnd
  /-- The first name of an object, or its end. -/
  | nameOrEnd
  /-- The name of a further member. -/
  | name
  /-- The colon behind a name. -/
  | colon (name : String)
  /-- A comma or the end of the innermost array or object. -/
  | more
  /-- Nothing: the value is complete. -/
  | nothing (value : Json)

/-- The builder's state: the open arrays and objects, innermost first, and what comes next. -/
structure Build where
  stack : List Frame
  want : Want

/-- Hand a complete value to the innermost open array or object. -/
def Build.give (stack : List Frame) (v : Json) : Build :=
  match stack with
  | [] => ⟨[], .nothing v⟩
  | .items done :: rest => ⟨.items (v :: done) :: rest, .more⟩
  | .members done name :: rest => ⟨.members ((name, v) :: done) name :: rest, .more⟩

/-- The greatest number of arrays and objects open at once. -/
def depthLimit : Nat := 127

/-- Begin a value with a token. -/
def Build.begin (stack : List Frame) : Token → Option Build
  | .literal v => some (Build.give stack v)
  | .openArray =>
    if stack.length < depthLimit then some ⟨.items [] :: stack, .itemOrEnd⟩ else none
  | .openObject =>
    if stack.length < depthLimit then some ⟨.members [] "" :: stack, .nameOrEnd⟩ else none
  | _ => none

/-- Use up one token. -/
def Build.step (b : Build) (t : Token) : Option Build :=
  match b.want, t, b.stack with
  | .value, t, stack => Build.begin stack t
  | .itemOrEnd, .closeArray, .items _ :: rest => some (Build.give rest (.arr []))
  | .itemOrEnd, t, stack => Build.begin stack t
  | .nameOrEnd, .closeObject, .members _ _ :: rest => some (Build.give rest (.obj []))
  | .nameOrEnd, .literal (.str k), stack => some ⟨stack, .colon k⟩
  | .name, .literal (.str k), stack => some ⟨stack, .colon k⟩
  | .colon k, .colon, .members done _ :: rest => some ⟨.members done k :: rest, .value⟩
  | .more, .comma, .items done :: rest => some ⟨.items done :: rest, .value⟩
  | .more, .comma, .members done k :: rest => some ⟨.members done k :: rest, .name⟩
  | .more, .closeArray, .items done :: rest => some (Build.give rest (.arr done.reverse))
  | .more, .closeObject, .members done _ :: rest => some (Build.give rest (.obj done.reverse))
  | _, _, _ => none

def read? (s : String) : Option Json :=
  match tokens? s.toList with
  | none => none
  | some ts =>
    match ts.foldlM Build.step ⟨[], .value⟩ with
    | some ⟨_, .nothing v⟩ => some v
    | _ => none

end InstanceOperator.Json
