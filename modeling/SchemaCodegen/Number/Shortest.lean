import SchemaCodegen.Number.Double

/-!
# Shortest decimals

The text of a double has the fewest digits that read back as the same double, and of those with
that many digits the one nearest to it. The reals that read back form an interval around the double,
its ends included if the mantissa is even. For each count of digits the two neighbours of the double
on that decimal grid are tried.
-/

namespace SchemaCodegen.Double

/-- A decimal: its digits read as one whole number, and the power of ten of the last. -/
structure Decimal where
  digits : Nat
  exponent : Int
  deriving DecidableEq, Repr

/-- The bounds of the interval that reads back as `mantissa * 2 ^ exponent`, with the value
itself, in units of a quarter of the last binary place. Below a power of two the step is halved. -/
structure Neighbourhood where
  low : Nat
  value : Nat
  high : Nat
  exponent : Int
  inclusive : Bool

def neighbourhood (mantissa : Nat) (exponent : Int) : Neighbourhood where
  low := if mantissa = Nat.pow 2 (precision - 1) && minExponent < exponent then 4 * mantissa - 1
    else 4 * mantissa - 2
  value := 4 * mantissa
  high := 4 * mantissa + 2
  exponent := exponent - 2
  inclusive := mantissa % 2 == 0

/-- A pair of whole numbers in the ratio of `a * 2 ^ e` to `b * 10 ^ p`. -/
def ratio (a : Nat) (e : Int) (b : Nat) (p : Int) : Nat × Nat :=
  (a * Nat.pow 2 e.toNat * Nat.pow 10 (-p).toNat, b * Nat.pow 2 (-e).toNat * Nat.pow 10 p.toNat)

/-- Whether the decimal lies in the interval. -/
def Neighbourhood.holds (n : Neighbourhood) (d : Decimal) : Bool :=
  let (low, a) := ratio n.low n.exponent d.digits d.exponent
  let (high, b) := ratio n.high n.exponent d.digits d.exponent
  if n.inclusive then low ≤ a && b ≤ high else low < a && b < high

/-- The decimal of the given last place that is not above the value. -/
def Neighbourhood.floor (n : Neighbourhood) (place : Int) : Nat :=
  let (num, den) := ratio n.value n.exponent 1 place
  num / den

/-- Of the two decimals around the value with the given last place, the nearest that reads back;
of two equally near the one with an even digit. -/
def Neighbourhood.pick (n : Neighbourhood) (place : Int) : Option Decimal :=
  let below := n.floor place
  let down : Decimal := ⟨below, place⟩
  let up : Decimal := ⟨below + 1, place⟩
  match n.holds down, n.holds up with
  | false, false => none
  | true, false => some down
  | false, true => some up
  | true, true =>
    let (twice, unit) := ratio (2 * n.value) n.exponent 1 place
    let middle := (2 * below + 1) * unit
    if twice < middle then some down
    else if middle < twice then some up
    else if below % 2 = 0 then some down else some up

/-- The place of the first digit of the value: the greatest power of ten not above it. The first
argument counts down from a bound on the places tried. -/
def Neighbourhood.topPlace (n : Neighbourhood) : Nat → Int → Int
  | 0, place => place
  | fuel + 1, place =>
    if n.floor place = 0 then n.topPlace fuel (place - 1) else place

/-- The first count of digits, from `count` on, for which a decimal reads back. -/
def Neighbourhood.search (n : Neighbourhood) (top : Int) : Nat → Nat → Decimal
  | 0, count => ⟨n.floor (top - count + 1), top - count + 1⟩
  | fuel + 1, count =>
    match n.pick (top - count + 1) with
    | some d => d
    | none => n.search top fuel (count + 1)

/-- The shortest decimal of a positive double. Seventeen digits always suffice. -/
def shortest (mantissa : Nat) (exponent : Int) : Decimal :=
  let n := neighbourhood mantissa exponent
  let guess : Int := ((bitLength mantissa : Int) + exponent) * 30103 / 100000 + 1
  n.search (n.topPlace 4 guess) 17 1

/-! ## Text -/

/-- Digits without the zeros at their end, and how many zeros were cut. -/
def dropTrailingZeros (digits : List Char) : List Char × Nat :=
  let kept := (digits.reverse.dropWhile (· == '0')).reverse
  (kept, digits.length - kept.length)

/-- A sign and at least two digits. -/
def exponentText (e : Int) : List Char :=
  let digits := Nat.toDigits 10 e.natAbs
  (if e < 0 then '-' else '+') :: (if digits.length < 2 then '0' :: digits else digits)

/-- Digits with their decimal point after the first `point` of them: positional if the point is at
most sixteen digits to the right and less than four zeros to the left, else with an exponent. A
whole number keeps one zero after the point. -/
def layout (digits : List Char) (point : Int) : List Char :=
  if -4 < point && point ≤ 16 then
    if point ≤ 0 then '0' :: '.' :: (List.replicate (-point).toNat '0' ++ digits)
    else if digits.length ≤ point.toNat then
      digits ++ List.replicate (point.toNat - digits.length) '0' ++ ['.', '0']
    else digits.take point.toNat ++ '.' :: digits.drop point.toNat
  else
    match digits with
    | [] => []
    | [d] => d :: 'e' :: exponentText (point - 1)
    | d :: ds => d :: '.' :: (ds ++ 'e' :: exponentText (point - 1))

/-- The text of a double. -/
def text : Double → String
  | .nan => "nan"
  | .infinite negative => if negative then "-inf" else "inf"
  | .finite negative mantissa exponent =>
    let body :=
      if mantissa = 0 then ['0', '.', '0']
      else
        let d := shortest mantissa exponent
        let written := Nat.toDigits 10 d.digits
        layout (dropTrailingZeros written).1 (written.length + d.exponent)
    String.ofList (if negative then '-' :: body else body)

end SchemaCodegen.Double
