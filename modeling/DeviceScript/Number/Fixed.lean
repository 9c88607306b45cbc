import DeviceScript.Number.Shortest

/-!
# Decimals with a given number of digits

A number is written with a given number of places behind the point, or with a given number of
digits and an exponent. The exact value is rounded once, a tie to the even digit.
-/

namespace DeviceScript.Number

/-- `mantissa * 2 ^ exponent * 10 ^ shift`, rounded to a whole number. -/
def roundShifted (mantissa : Nat) (exp shift : Int) : Nat :=
  let numerator := mantissa * twoTo exp.toNat * tenTo shift.toNat
  let denominator := twoTo (-exp).toNat * tenTo (-shift).toNat
  roundQuotient numerator denominator

def filledDigits (width n : Nat) : List Char :=
  let digits := Nat.toDigits 10 n
  List.replicate (width - digits.length) '0' ++ digits

/-- Digits with a point in front of the last places. The flag says that the point stands even if no
place follows it. -/
def withPoint (keepsPoint : Bool) (places : Nat) (digits : List Char) : List Char :=
  let front := digits.take (digits.length - places)
  let behind := digits.drop (digits.length - places)
  if behind.isEmpty && !keepsPoint then front else front ++ '.' :: behind

def fixedText (keepsPoint : Bool) (places mantissa : Nat) (exp : Int) : List Char :=
  withPoint keepsPoint places (filledDigits (places + 1) (roundShifted mantissa exp places))

/-- The digits of a number, `count` of them, and the exponent of the first one. -/
def roundedDigits (count mantissa : Nat) (exp : Int) : Nat × Int :=
  if mantissa = 0 then (0, 0)
  else
    let point := pointPlace mantissa exp
    let digits := roundShifted mantissa exp (count - point)
    if digits = tenTo count then (digits / 10, point) else (digits, point - 1)

def exponentText (exp : Int) : List Char :=
  'e' :: (if exp < 0 then '-' else '+') :: filledDigits 2 exp.natAbs

/-- The number with one digit in front of the point, a given number of places behind it, and an
exponent. -/
def exponentialText (keepsPoint : Bool) (places mantissa : Nat) (exp : Int) : List Char :=
  let (digits, power) := roundedDigits (places + 1) mantissa exp
  withPoint keepsPoint places (filledDigits (places + 1) digits) ++ exponentText power

/-- The digits without zeros at the end of the places behind the point, and without a point that
nothing follows. -/
def withoutZeros (s : List Char) : List Char :=
  if s.contains '.' then
    let rest := (s.reverse.dropWhile (· = '0'))
    (if rest.head? = some '.' then rest.drop 1 else rest).reverse
  else s

/-- The number with a given number of digits, in the shorter of both ways; zeros at the end are kept
only if the flag says so. -/
def generalText (keepsZeros : Bool) (count mantissa : Nat) (exp : Int) : List Char :=
  let count := max count 1
  let (digits, power) := roundedDigits count mantissa exp
  let trimmed := fun (s : List Char) => if keepsZeros then s else withoutZeros s
  if -4 ≤ power ∧ power < count then
    let places := (count - 1 - power).toNat
    trimmed (withPoint keepsZeros places (filledDigits (places + 1)
      (roundShifted mantissa exp places)))
  else trimmed (withPoint keepsZeros (count - 1) (filledDigits count digits)) ++ exponentText power

end DeviceScript.Number
