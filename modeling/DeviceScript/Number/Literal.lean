import DeviceScript.Number.Binary64
import DeviceScript.Text.Blank
import DeviceScript.Text.Digit

/-!
# Numbers read from text

A number may stand between blanks and use the decimal digits of any script; single
underscores may stand between digits. A number with a fraction has an optional exponent, and
the words for infinity and for the number that equals nothing are read in any case.
-/

namespace DeviceScript.Number

open DeviceScript.Text

/-- What stands at a place once digits of all scripts and blanks are unified; nothing for a
character that no number holds. -/
def plainChar (c : Char) : Char :=
  if c.toNat < 127 then c
  else if blankRanges.contains c then ' '
  else
    match decimalValue? c with
    | some v => Char.ofNat (48 + v)
    | none => '?'

def isPadding (c : Char) : Bool := c == ' ' || (9 ≤ c.toNat && c.toNat ≤ 13)

/-- The text with digits and blanks unified and without blanks at either end. -/
def unified (s : String) : List Char :=
  let plain := s.toList.map plainChar
  ((plain.dropWhile isPadding).reverse.dropWhile isPadding).reverse

/-- Splits off a sign; the flag says that it is the minus. -/
def splitSign : List Char → Bool × List Char
  | '-' :: rest => (true, rest)
  | '+' :: rest => (false, rest)
  | rest => (false, rest)

/-- The value of a list of decimal digits in front of which `soFar` was read. -/
def digitsValue (soFar : Nat) : List Char → Nat
  | [] => soFar
  | c :: rest => digitsValue (soFar * 10 + (c.toNat - 48)) rest

def digitLimit : Nat := 4300

inductive WholeFault where
  | malformed
  | tooLong (digits : Nat)
  deriving DecidableEq

/-- Every underscore stands between two digits. The flag says whether the character in front
is a digit. -/
def underscoresInside : (afterDigit : Bool) → List Char → Bool
  | _, [] => true
  | afterDigit, '_' :: rest =>
    match rest with
    | next :: _ => afterDigit && next.isDigit && underscoresInside false rest
    | [] => false
  | _, c :: rest => underscoresInside c.isDigit rest

def readWhole (s : String) : Except WholeFault Int :=
  let (neg, body) := splitSign (unified s)
  let run := body.takeWhile fun c => c.isDigit || c == '_'
  let digits := run.filter Char.isDigit
  if digits.isEmpty || !underscoresInside false run then .error .malformed
  else if digitLimit < digits.length then .error (.tooLong digits.length)
  else if run.length < body.length then .error .malformed
  else
    let magnitude : Int := digitsValue 0 digits
    .ok (if neg then -magnitude else magnitude)

def digitIn? (base : Nat) (c : Char) : Option Nat :=
  let v :=
    if c.isDigit then c.toNat - '0'.toNat
    else if c.isLower then c.toNat - 'a'.toNat + 10
    else if c.isUpper then c.toNat - 'A'.toNat + 10
    else base
  if v < base then some v else none

/-- The letter that may stand behind a zero in front of a number of a base. -/
def baseLetter (base : Nat) : Option Char :=
  if base = 2 then some 'b' else if base = 8 then some 'o' else if base = 16 then some 'x' else none

/-- Reads a whole number in a base without underscores; a zero and a letter may tell the base
again. -/
def readBased? (base : Nat) (s : String) : Option Int :=
  let (neg, body) := splitSign (unified s)
  let digits :=
    match body with
    | '0' :: letter :: rest => if baseLetter base = some letter.toLower then rest else body
    | _ => body
  if digits.isEmpty then none
  else do
    let magnitude ← digits.foldlM (fun total c => (digitIn? base c).map (total * base + ·)) 0
    return if neg then -(magnitude : Int) else magnitude

/-- The number nearest to `digits * 10 ^ exponent`; the infinity if it is too large. -/
def ofDecimal (neg : Bool) (digits : Nat) (exp : Int) : Float :=
  let size : Int := exp + (Nat.log2 digits / 3 + 1 : Nat)
  if digits = 0 then zero neg
  else if 0 ≤ exp ∧ 400 < exp then infinity neg
  else if size < -400 then zero neg
  else
    let rounded :=
      if 0 ≤ exp then ofRatio? neg (digits * tenTo exp.toNat) 1
      else ofRatio? neg digits (tenTo (-exp).toNat)
    rounded.getD (infinity neg)

def readExponent : List Char → Option Int
  | [] => some 0
  | mark :: rest =>
    if mark == 'e' || mark == 'E' then
      let (neg, digits) := splitSign rest
      if digits.isEmpty || !digits.all Char.isDigit then none
      else
        let magnitude : Int := digitsValue 0 digits
        some (if neg then -magnitude else magnitude)
    else none

def readDecimal (neg : Bool) (body : List Char) : Option Float :=
  let whole := body.takeWhile Char.isDigit
  let afterWhole := body.dropWhile Char.isDigit
  let (places, afterPlaces) :=
    match afterWhole with
    | '.' :: rest => (rest.takeWhile Char.isDigit, rest.dropWhile Char.isDigit)
    | rest => ([], rest)
  if whole.isEmpty && places.isEmpty then none
  else
    (readExponent afterPlaces).map fun exp =>
      ofDecimal neg (digitsValue 0 (whole ++ places)) (exp - places.length)

def readFloat? (s : String) : Option Float :=
  let text := unified s
  if text.contains '_' && !underscoresInside false text then none
  else
    let (neg, body) := splitSign (text.filter (· != '_'))
    let word := String.ofList (body.map Char.toLower)
    if word == "inf" || word == "infinity" then some (infinity neg)
    else if word == "nan" then some notANumber
    else readDecimal neg body

end DeviceScript.Number
