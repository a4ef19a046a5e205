/-!
# Binary floating point numbers

A number of the double format is a sign and `mantissa * 2 ^ exponent`, an infinity, or not a number.
Main definition: `ofDecimal`, the double nearest to a decimal, ties to the even mantissa.
-/

namespace SchemaCodegen

/-- A double. A finite one has a mantissa below `2 ^ 53`; zero keeps its sign. -/
inductive Double where
  | finite (negative : Bool) (mantissa : Nat) (exponent : Int)
  | infinite (negative : Bool)
  | nan
  deriving DecidableEq, Repr, Inhabited

namespace Double

/-- The least exponent of the format. -/
def minExponent : Int := -1074

/-- The greatest exponent of the format. -/
def maxExponent : Int := 971

/-- The number of binary digits of a mantissa. -/
def precision : Nat := 53

/-- The number of binary digits of a number. -/
def bitLength (n : Nat) : Nat := if n = 0 then 0 else n.log2 + 1

/-- The whole number nearest to a quotient, ties to even. -/
def roundQuotient (num den : Nat) : Nat :=
  let whole := num / den
  let rest := 2 * (num % den)
  if rest < den then whole
  else if den < rest then whole + 1
  else whole + whole % 2

/-- `num / den` in units of `2 ^ e`, as a quotient of whole numbers. -/
def scale (num den : Nat) (e : Int) : Nat × Nat :=
  if 0 ≤ e then (num, den * Nat.pow 2 e.toNat) else (num * Nat.pow 2 (-e).toNat, den)

/-- The double nearest to the quotient of two positive numbers. -/
def ofQuotient (negative : Bool) (num den : Nat) : Double :=
  let guess : Int := (bitLength num : Int) - bitLength den - precision
  let limit := Nat.pow 2 precision
  let fitted := if (scale num den guess).1 < limit * (scale num den guess).2 then guess
    else guess + 1
  let exponent := max fitted minExponent
  let (n, d) := scale num den exponent
  let mantissa := roundQuotient n d
  let (mantissa, exponent) :=
    if mantissa = limit then (Nat.pow 2 (precision - 1), exponent + 1) else (mantissa, exponent)
  if maxExponent < exponent then .infinite negative else .finite negative mantissa exponent

/-- The number of decimal digits of a number. -/
def decimalLength (n : Nat) : Nat := (Nat.toDigits 10 n).length

/-- The double nearest to `digits * 10 ^ exponent`. Decimals far outside the range of the format are
decided by their magnitude alone. -/
def ofDecimal (negative : Bool) (digits : Nat) (exponent : Int) : Double :=
  let magnitude : Int := decimalLength digits + exponent
  if digits = 0 || magnitude < -400 then .finite negative 0 minExponent
  else if 400 < magnitude then .infinite negative
  else if 0 ≤ exponent then ofQuotient negative (digits * Nat.pow 10 exponent.toNat) 1
  else ofQuotient negative digits (Nat.pow 10 (-exponent).toNat)

/-- Zero of either sign. -/
def isZero : Double → Bool
  | .finite _ mantissa _ => mantissa == 0
  | _ => false

example : ofDecimal false 1 0 = .finite false (2 ^ 52) (-52) := by decide +kernel
example : ofDecimal false 5 (-324) = .finite false 1 (-1074) := by decide +kernel
example : ofDecimal true 1 400 = .infinite true := by decide +kernel

end Double

end SchemaCodegen
