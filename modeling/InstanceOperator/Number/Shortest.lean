/-!
# Shortest decimals of binary floating point

A finite double is `m * 2 ^ q`. Of the decimals that read back as the same double, its text uses
one with the fewest digits, and of those the nearest to the value; an exact tie goes up. All
arithmetic is exact, on natural numbers.
-/

namespace InstanceOperator.Number

/-- A decimal number: a sign, an integer of digits, and the power of ten that scales it. -/
structure Decimal where
  negative : Bool
  digits : Nat
  exponent : Int
deriving DecidableEq, Repr

/-- The bits of a double's fraction as a number: the least significand of a normal double. -/
def fractionSize : Nat := Nat.pow 2 52

/-- The exponent field of a bit pattern, which has eleven bits. -/
def exponentField (bits : Nat) : Nat :=
  bits / fractionSize % 2048

/-- The finite value of a bit pattern of a double, as sign, significand and binary exponent. -/
def decodeBits (bits : Nat) : Bool × Nat × Int :=
  let negative := bits / fractionSize / 2048 == 1
  let field := exponentField bits
  let fraction := bits % fractionSize
  if field = 0 then (negative, fraction, -1074)
  else (negative, fractionSize + fraction, (field : Int) - 1075)

/-- A positive rational, and the interval of rationals that round to the same double, over one
denominator. The ends belong to it when `closed`. -/
structure Interval where
  low : Nat
  value : Nat
  high : Nat
  denominator : Nat
  closed : Bool

/-- The rounding interval of `m * 2 ^ q`. Below a power of two the next double is half as far. -/
def Interval.ofBinary (m : Nat) (q : Int) : Interval :=
  let down := if m = fractionSize ∧ q ≠ -1074 then 1 else 2
  let up := Nat.pow 2 q.toNat
  { low := (4 * m - down) * up
    value := 4 * m * up
    high := (4 * m + 2) * up
    denominator := 4 * Nat.pow 2 (-q).toNat
    closed := m % 2 == 0 }

/-- The interval with all its numbers multiplied by `10 ^ k`, or divided for a negative `k`. -/
def Interval.scale (i : Interval) (k : Int) : Interval :=
  let up := Nat.pow 10 k.toNat
  { i with
    low := i.low * up
    value := i.value * up
    high := i.high * up
    denominator := i.denominator * Nat.pow 10 (-k).toNat }

/-- Whether the whole number `n` lies in the interval. -/
def Interval.holds (i : Interval) (n : Nat) : Bool :=
  let x := n * i.denominator
  if i.closed then i.low ≤ x && x ≤ i.high else i.low < x && x < i.high

/-- The whole number in the interval that is nearest to the value, of the value's two neighbours. -/
def Interval.nearest? (i : Interval) : Option Nat :=
  let below := i.value / i.denominator
  let rest := i.value % i.denominator
  match i.holds below, i.holds (below + 1) with
  | true, true => some (if 2 * rest < i.denominator then below else below + 1)
  | true, false => some below
  | false, true => some (below + 1)
  | false, false => none

/-- The least `k` with `value < 10 ^ k`, searched upwards from a lower bound `k`. -/
def Interval.magnitude (i : Interval) (k : Int) : Nat → Int
  | 0 => k
  | fuel + 1 =>
    if (i.scale (-k)).value < (i.scale (-k)).denominator then k else i.magnitude (k + 1) fuel

/-- The first grid, from `used` digits on, that has a point in the interval. -/
def Interval.search (i : Interval) (magnitude : Int) (used : Nat) : Nat → Nat × Int
  | 0 => (0, 0)
  | fuel + 1 =>
    match (i.scale (used - magnitude)).nearest? with
    | some n => (n, magnitude - used)
    | none => i.search magnitude (used + 1) fuel

/-- Move trailing zeros from the digits into the exponent. -/
def stripZeros (n : Nat) (e : Int) : Nat → Nat × Int
  | 0 => (n, e)
  | fuel + 1 => if n ≠ 0 ∧ n % 10 = 0 then stripZeros (n / 10) (e + 1) fuel else (n, e)

/-- A power of ten not above `m * 2 ^ q`: the binary logarithm times the decimal one of two. -/
def magnitudeBound (m : Nat) (q : Int) : Int :=
  (q + m.log2) * 30103 / 100000 - 1

/-- The shortest decimal of a finite double, given by its bit pattern. -/
def shortest (bits : Nat) : Decimal :=
  let (negative, m, q) := decodeBits bits
  if m = 0 then ⟨negative, 0, 0⟩
  else
    let i := Interval.ofBinary m q
    let (n, e) := i.search (i.magnitude (magnitudeBound m q) 4) 1 17
    let (n, e) := stripZeros n e 20
    ⟨negative, n, e⟩

/-- Whether a bit pattern stands for an infinity or for no number. -/
def isNonFinite (bits : Nat) : Bool :=
  exponentField bits == 2047

/-! ## Texts -/

def zeros (n : Nat) : String :=
  String.ofList (List.replicate n '0')

/-- Digits with a point `k` places from the right end. -/
def placePoint (digits : String) (k : Nat) : String :=
  if k = 0 then digits
  else if k < digits.length then
    String.ofList (digits.toList.take (digits.length - k)) ++ "."
      ++ String.ofList (digits.toList.drop (digits.length - k))
  else "0." ++ zeros (k - digits.length) ++ digits

/-- Positional notation: no exponent ever, and no point behind a whole number. -/
def Decimal.positional (d : Decimal) : String :=
  (if d.negative then "-" else "")
    ++ (if d.exponent ≥ 0 then toString d.digits ++ zeros d.exponent.toNat
        else placePoint (toString d.digits) (-d.exponent).toNat)

/-- The notation of data files: positional from `1e-5` up to below `1e16`, with `.0` behind a whole
number, and scientific elsewhere. -/
def Decimal.scientific (d : Decimal) : String :=
  let text := toString d.digits
  let point : Int := text.length + d.exponent
  (if d.negative then "-" else "")
    ++ (if d.digits = 0 then "0.0"
        else if 0 ≤ d.exponent ∧ point ≤ 16 then text ++ zeros d.exponent.toNat ++ ".0"
        else if d.exponent < 0 ∧ -5 < point ∧ point ≤ 16 then placePoint text (-d.exponent).toNat
        else placePoint text (text.length - 1) ++ "e" ++ toString (point - 1))

end InstanceOperator.Number
