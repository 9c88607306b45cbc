/-!
# Binary floating point numbers as exact fractions

A finite number of the 64 bit binary format is `mantissa * 2 ^ exponent` with a sign. This
module takes a number apart, and rounds any fraction to the nearest number of the format, a
tie to the even mantissa. Everything that needs more than the four operations of the format
(comparison with whole numbers, division of whole numbers, reading and writing decimals) goes
through these two functions and exact arithmetic.
-/

namespace DeviceScript.Number

def twoTo (exp : Nat) : Nat := Nat.pow 2 exp

def tenTo (exp : Nat) : Nat := Nat.pow 10 exp

/-- What a number of the format stands for. -/
inductive Reading where
  | finite (neg : Bool) (mantissa : Nat) (exp : Int)
  | infinite (neg : Bool)
  | notANumber
  deriving DecidableEq

def read (x : Float) : Reading :=
  let bits : Nat := x.toBits.toNat
  let neg := decide (twoTo 63 ≤ bits)
  let biased : Nat := bits / twoTo 52 % twoTo 11
  let fraction : Nat := bits % twoTo 52
  if biased = 2047 then if fraction = 0 then .infinite neg else .notANumber
  else if biased = 0 then .finite neg fraction (-1074)
  else .finite neg (fraction + twoTo 52) ((biased : Int) - 1075)

def infinityBits : Nat := 2047 * twoTo 52

/-- The number with the given sign and magnitude bits. -/
def ofMagnitude (neg : Bool) (magnitude : Nat) : Float :=
  Float.ofBits (UInt64.ofNat (if neg then magnitude + twoTo 63 else magnitude))

def infinity (neg : Bool) : Float := ofMagnitude neg infinityBits

def notANumber : Float := Float.ofBits (UInt64.ofNat (infinityBits + twoTo 51))

def zero (neg : Bool) : Float := ofMagnitude neg 0

/-- The quotient rounded to the nearest whole number, a tie to the even one. -/
def roundQuotient (numerator denominator : Nat) : Nat :=
  let quotient := numerator / denominator
  let twice := 2 * (numerator % denominator)
  if twice < denominator then quotient
  else if denominator < twice then quotient + 1
  else if quotient % 2 = 0 then quotient else quotient + 1

/-- The exponent of the largest power of two that is at most the positive fraction. -/
def floorLog2 (numerator denominator : Nat) : Int :=
  let guess : Int := (Nat.log2 numerator : Int) - (Nat.log2 denominator : Int)
  let atLeast :=
    if 0 ≤ guess then decide (denominator * twoTo guess.toNat ≤ numerator)
    else decide (denominator ≤ numerator * twoTo (-guess).toNat)
  if atLeast then guess else guess - 1

/-- The magnitude bits of a fraction rounded to the format; bits of the infinity or more
mean that the fraction is too large. -/
def magnitudeOfRatio (numerator denominator : Nat) : Nat :=
  if numerator = 0 then 0
  else
    let exp := max (floorLog2 numerator denominator - 52) (-1074)
    let mantissa :=
      if 0 ≤ exp then roundQuotient numerator (denominator * twoTo exp.toNat)
      else roundQuotient (numerator * twoTo (-exp).toNat) denominator
    (exp + 1074).toNat * twoTo 52 + mantissa

/-- The number nearest to a fraction, or nothing if the fraction is too large. -/
def ofRatio? (neg : Bool) (numerator denominator : Nat) : Option Float :=
  let magnitude := magnitudeOfRatio numerator denominator
  if magnitude < infinityBits then some (ofMagnitude neg magnitude) else none

/-- The number nearest to a whole number, or nothing if it is too large. -/
def ofInt? (n : Int) : Option Float := ofRatio? (decide (n < 0)) n.natAbs 1

def divideInts? (n m : Int) : Option Float :=
  ofRatio? (decide (n < 0) != decide (m < 0)) n.natAbs m.natAbs

def truncated (neg : Bool) (mantissa : Nat) (exp : Int) : Int :=
  let magnitude : Nat :=
    if 0 ≤ exp then mantissa * twoTo exp.toNat else mantissa / twoTo (-exp).toNat
  if neg then -(magnitude : Int) else magnitude

def floored (neg : Bool) (mantissa : Nat) (exp : Int) : Int :=
  if 0 ≤ exp then truncated neg mantissa exp
  else
    let unit := twoTo (-exp).toNat
    if neg then -(((mantissa + unit - 1) / unit : Nat) : Int)
    else ((mantissa / unit : Nat) : Int)

def wholePart? (x : Float) : Option Int :=
  match read x with
  | .finite neg mantissa exp => some (truncated neg mantissa exp)
  | _ => none

def floor? (x : Float) : Option Int :=
  match read x with
  | .finite neg mantissa exp => some (floored neg mantissa exp)
  | _ => none

/-- The sum of a remainder and its divisor, if their signs differ; a remainder of zero has the sign
of the divisor. -/
def settled (rest divisor : Float) : Float :=
  if rest == 0.0 then zero (divisor < 0.0)
  else if (rest < 0.0) != (divisor < 0.0) then rest + divisor
  else rest

/-- What is left of a number when it is divided by another, with the sign of the divisor; nothing
for a division by zero. The first remainder is exact, since it needs no more bits than the divisor
has. -/
def remainder? (x y : Float) : Option Float :=
  match read x, read y with
  | _, .finite _ 0 _ => none
  | .finite neg m e, .finite _ n d =>
    let unit := min e d
    let rest := m * twoTo (e - unit).toNat % (n * twoTo (d - unit).toNat)
    let exact :=
      if 0 ≤ unit then ofRatio? neg (rest * twoTo unit.toNat) 1
      else ofRatio? neg rest (twoTo (-unit).toNat)
    some (settled (exact.getD 0.0) y)
  | .finite .., .infinite _ => some (settled x y)
  | _, _ => some notANumber

open Float.Model in
/-- The number of the 32 bit format that is nearest to a number, a tie to the even mantissa. -/
def toSingle (x : Float) : Float32 :=
  let rounded := match UnpackedFloat.unpack .binary64 x.toBits.toBitVec with
    | .finite sign mantissa exp _ => UnpackedFloat.round .binary32 sign mantissa exp
    | special => special
  .ofBits (.ofBitVec (rounded.pack .binary32))

/-- Order of a whole number and a finite number, without rounding. -/
def compareInt (n : Int) (neg : Bool) (mantissa : Nat) (exp : Int) : Ordering :=
  let signed : Int := if neg then -(mantissa : Int) else mantissa
  if 0 ≤ exp then compare n (signed * twoTo exp.toNat)
  else compare (n * twoTo (-exp).toNat) signed

end DeviceScript.Number
