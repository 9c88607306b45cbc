import DeviceScript.Number.Binary64

/-!
# The shortest decimal that reads back

Of all decimals that round to a given binary number, the ones with the fewest digits are
looked for, and among those the one nearest to the number. For each count of digits only the
two neighbours of the number on that decimal grid matter, so seventeen pairs of exact
comparisons settle the question.
-/

namespace DeviceScript.Number

structure Fraction where
  numerator : Nat
  denominator : Nat

/-- `factor * base ^ exponent` for an exponent of either sign. -/
def Fraction.scaled (factor base : Nat) (exp : Int) : Fraction :=
  if 0 ≤ exp then ⟨factor * Nat.pow base exp.toNat, 1⟩
  else ⟨factor, Nat.pow base (-exp).toNat⟩

def Fraction.order (a b : Fraction) : Ordering :=
  compare (a.numerator * b.denominator) (b.numerator * a.denominator)

/-- The digits of a decimal as one number, and the place of the point: the decimal is
`0.d₁d₂… * 10 ^ point`. -/
structure Decimal where
  digits : Nat
  point : Int
  deriving DecidableEq

/-- The reals that round to `mantissa * 2 ^ exponent`, in quarters of the last place. -/
structure Interval where
  low : Fraction
  high : Fraction
  closed : Bool

/-- The reals that round to a positive finite number. -/
def Interval.around (mantissa : Nat) (exp : Int) : Interval :=
  let below := if mantissa = twoTo 52 ∧ -1074 < exp then 1 else 2
  { low := Fraction.scaled (4 * mantissa - below) 2 (exp - 2)
    high := Fraction.scaled (4 * mantissa + 2) 2 (exp - 2)
    closed := decide (mantissa % 2 = 0) }

def Interval.contains (interval : Interval) (x : Fraction) : Bool :=
  let fromLow := interval.low.order x
  let toHigh := x.order interval.high
  (fromLow == .lt || (interval.closed && fromLow == .eq)) &&
    (toHigh == .lt || (interval.closed && toHigh == .eq))

/-- The number of decimal digits in front of the point; zero or negative below one. -/
def pointPlace (mantissa : Nat) (exp : Int) : Int :=
  let v := Fraction.scaled mantissa 2 exp
  let guess := (((Nat.log2 mantissa : Int) + exp) * 30103).fdiv 100000
  if v.order (Fraction.scaled 1 10 guess) == .lt then guess
  else if v.order (Fraction.scaled 1 10 (guess + 1)) == .lt then guess + 1
  else guess + 2

/-- The best decimal with the given count of digits that reads back, if there is one: the
nearer of the two neighbours on the grid, a tie to the even digit. -/
def nearestOnGrid? (mantissa : Nat) (exp point : Int) (count : Nat) : Option Nat :=
  let interval := Interval.around mantissa exp
  let v := Fraction.scaled mantissa 2 exp
  let step : Int := point - count
  let grid := Fraction.scaled 1 10 step
  let numerator := v.numerator * grid.denominator
  let denominator := v.denominator * grid.numerator
  let down := numerator / denominator
  let up := down + 1
  let downFits := interval.contains (Fraction.scaled down 10 step)
  let upFits := interval.contains (Fraction.scaled up 10 step)
  if downFits && upFits then some (roundQuotient numerator denominator)
  else if downFits then some down
  else if upFits then some up
  else none

def dropTrailingZeros : (fuel digits : Nat) → Nat
  | 0, digits => digits
  | fuel + 1, digits =>
    if digits ≠ 0 ∧ digits % 10 = 0 then dropTrailingZeros fuel (digits / 10) else digits

/-- The best decimal of the first count of digits, from `count` on, for which one reads
back. -/
def searchDecimal (mantissa : Nat) (exp point : Int) : (remaining count : Nat) → Decimal
  | 0, _ => ⟨mantissa, point⟩
  | remaining + 1, count =>
    match nearestOnGrid? mantissa exp point count with
    | some digits =>
      ⟨dropTrailingZeros 20 digits, if digits = tenTo count then point + 1 else point⟩
    | none => searchDecimal mantissa exp point remaining (count + 1)

/-- The shortest decimal that reads back as `mantissa * 2 ^ exponent`. -/
def shortest (mantissa : Nat) (exp : Int) : Decimal :=
  searchDecimal mantissa exp (pointPlace mantissa exp) 17 1

end DeviceScript.Number
