import DeviceScript.Number.Shortest

/-!
# Numbers as text

A number with a fraction is written with the fewest digits that read back. Between `0.0001`
and `10 ^ 16` the point stands in its place, and at least one digit follows it; beyond, the
number is written with one digit in front of the point and an exponent of at least two digits.
-/

namespace DeviceScript.Number

/-- Where positional writing ends, and how an exponent is written. -/
structure NumberFormat where
  /-- The least exponent of ten that is still written positionally. -/
  leastPositional : Int
  /-- The least exponent of ten above it that is not. -/
  firstScientific : Int
  exponentWidth : Nat

def scriptFormat : NumberFormat := ⟨-4, 16, 2⟩

def positional (digits : List Char) (point : Int) : List Char :=
  if point ≤ 0 then ['0', '.'] ++ List.replicate (-point).toNat '0' ++ digits
  else
    let place := point.toNat
    if digits.length ≤ place then
      digits ++ List.replicate (place - digits.length) '0' ++ ['.', '0']
    else digits.take place ++ ['.'] ++ digits.drop place

def scientific (format : NumberFormat) (digits : List Char) (point : Int) : List Char :=
  let exp := point - 1
  let magnitude := Nat.toDigits 10 exp.natAbs
  let padded := List.replicate (format.exponentWidth - magnitude.length) '0' ++ magnitude
  digits.take 1 ++ (if digits.length ≤ 1 then [] else '.' :: digits.drop 1) ++
    ['e', if exp < 0 then '-' else '+'] ++ padded

def Decimal.render (format : NumberFormat) (decimal : Decimal) : List Char :=
  let digits := Nat.toDigits 10 decimal.digits
  let exp := decimal.point - 1
  if format.leastPositional ≤ exp ∧ exp < format.firstScientific then
    positional digits decimal.point
  else scientific format digits decimal.point

def floatText (x : Float) : String :=
  match read x with
  | .notANumber => "nan"
  | .infinite neg => if neg then "-inf" else "inf"
  | .finite neg mantissa exp =>
    let magnitude :=
      if mantissa = 0 then ['0', '.', '0']
      else (shortest mantissa exp).render scriptFormat
    String.ofList (if neg then '-' :: magnitude else magnitude)

end DeviceScript.Number
