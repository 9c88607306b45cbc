import DeviceScript.Document.Cursor
import DeviceScript.Text.LowerCase
import DeviceScript.Value.Basic

/-!
# Scalars of settings documents

A scalar that stands without quotes is read by its form: as nothing, a truth value, a whole
number in one of several bases, a number with a fraction, a moment, or else as a text. The form
gives the scalar its tag, and the tag says how its text is read. A scalar can also be given a tag
that its text does not fit; then reading fails.
-/

namespace DeviceScript.Document

open Number

/-! ## Tags -/

inductive Tag where
  | null
  | bool
  | int
  | float
  | binary
  | timestamp
  | omap
  | pairs
  | set
  | str
  | seq
  | map
  | merge
  | value
  | other (name : String)
  deriving DecidableEq, Inhabited

namespace Tag

/-- The tags that every document knows, by the words that end their names. -/
def known : List (String × Tag) :=
  [("null", .null), ("bool", .bool), ("int", .int), ("float", .float), ("binary", .binary),
    ("timestamp", .timestamp), ("omap", .omap), ("pairs", .pairs), ("set", .set), ("str", .str),
    ("seq", .seq), ("map", .map), ("merge", .merge), ("value", .value)]

def knownStart : String := "tag:yaml.org,2002:"

def ofName (name : String) : Tag :=
  match known.find? fun entry => knownStart ++ entry.1 = name with
  | some (_, tag) => tag
  | none => .other name

def name : Tag → String
  | .other name => name
  | tag =>
    match known.find? fun entry => entry.2 = tag with
    | some (word, _) => knownStart ++ word
    | none => knownStart

def isCollection (tag : Tag) : Bool :=
  tag = .seq || tag = .map || tag = .set || tag = .omap || tag = .pairs

end Tag

/-! ## Forms -/

def nothingWords : List String := ["", "~", "null", "Null", "NULL"]

def truthWords : List String :=
  ["yes", "Yes", "YES", "no", "No", "NO", "true", "True", "TRUE", "false", "False", "FALSE",
    "on", "On", "ON", "off", "Off", "OFF"]

def mergeWord : String := "<<"

def valueWord : String := "="

def unsigned : List Char → List Char
  | '-' :: rest | '+' :: rest => rest
  | s => s

/-- The character is a digit of the base, or the mark that groups digits. -/
def isDigitOf (base : Nat) (c : Char) : Bool :=
  c = '_' || (digitValue? c).any (decide <| · < base)

def isGrouped : List Char → Bool
  | [] => false
  | c :: rest => c.isDigit && rest.all (isDigitOf 10)

def isSixtieth : List Char → Bool
  | [low] => low.isDigit
  | [high, low] => '0' ≤ high && high ≤ '5' && low.isDigit
  | _ => false

def isSexagesimal (s : List Char) : Bool :=
  match Text.splitChar ':' s with
  | first :: second :: others => isGrouped first && (second :: others).all isSixtieth
  | _ => false

def isRun (base : Nat) (s : List Char) : Bool := !s.isEmpty && s.all (isDigitOf base)

def isWhole (s : List Char) : Bool :=
  match unsigned s with
  | ['0'] => true
  | '0' :: 'b' :: digits => isRun 2 digits
  | '0' :: 'x' :: digits => isRun 16 digits
  | '0' :: digits => isRun 8 digits
  | digits => isGrouped digits || isSexagesimal digits

/-- An exponent, which needs a sign, or nothing. -/
def isExponent : List Char → Bool
  | [] => true
  | mark :: sign :: digits =>
    (mark = 'e' || mark = 'E') && (sign = '-' || sign = '+') && !digits.isEmpty &&
      digits.all Char.isDigit
  | _ => false

def isReal (s : List Char) : Bool :=
  let body := unsigned s
  let front := body.takeWhile (· ≠ '.')
  match body.dropWhile (· ≠ '.') with
  | '.' :: places =>
    let tail := places.dropWhile (isDigitOf 10)
    (isGrouped front && isExponent tail) ||
      (front.isEmpty && body = s && places.head?.any Char.isDigit && isExponent tail) ||
      (isSexagesimal front && tail.isEmpty) ||
      (front.isEmpty && ["inf", "Inf", "INF"].contains (String.ofList places)) ||
      (body = s && front.isEmpty && ["nan", "NaN", "NAN"].contains (String.ofList places))
  | _ => false

/-! ## Moments -/

/-- The number that one or two digits at the start stand for, and what follows. -/
def oneOrTwoDigits : List Char → Option (Nat × List Char)
  | a :: b :: rest =>
    if a.isDigit && b.isDigit then some (digitsValue 0 [a, b], rest)
    else if a.isDigit then some (digitsValue 0 [a], b :: rest)
    else none
  | [a] => if a.isDigit then some (digitsValue 0 [a], []) else none
  | [] => none

/-- The number that a given count of digits at the start stand for, and what follows. -/
def digitsAtStart (count : Nat) (s : List Char) : Option (Nat × List Char) :=
  let digits := s.take count
  if digits.length = count && digits.all Char.isDigit then
    some (digitsValue 0 digits, s.drop count)
  else none

def afterSign (sign : Char) : List Char → Option (List Char)
  | c :: rest => if c = sign then some rest else none
  | [] => none

/-- The minutes by which a clock is ahead, written at the end of a time; nothing at the end says
nothing. -/
def aheadAtEnd (s : List Char) : Option (Option Int) :=
  match s.dropWhile isGap with
  | [] => if s.isEmpty then some none else none
  | ['Z'] => some (some 0)
  | sign :: rest => do
    let (hours, rest) ← oneOrTwoDigits rest
    let minutes ←
      match rest with
      | [] => some 0
      | ':' :: rest => do
        let (minutes, rest) ← digitsAtStart 2 rest
        if rest.isEmpty then some minutes else none
      | _ => none
    let ahead : Int := (hours * 60 + minutes : Nat)
    if sign = '+' then some (some ahead) else if sign = '-' then some (some (-ahead)) else none

def microseconds (digits : List Char) : Nat :=
  let first := digits.take 6
  digitsValue 0 (first ++ List.replicate (6 - first.length) '0')

def clockAtEnd (s : List Char) : Option Clock := do
  let (hour, rest) ← oneOrTwoDigits s
  let (minute, rest) ← digitsAtStart 2 (← afterSign ':' rest)
  let (second, rest) ← digitsAtStart 2 (← afterSign ':' rest)
  let (fraction, rest) :=
    match rest with
    | '.' :: rest => (rest.takeWhile Char.isDigit, rest.dropWhile Char.isDigit)
    | rest => ([], rest)
  return ⟨hour, minute, second, microseconds fraction, ← aheadAtEnd rest⟩

/-- A moment as it is written, which need not be in the calendar. -/
def moment? (s : List Char) : Option Moment := do
  let (year, rest) ← digitsAtStart 4 s
  let (month, rest) ← oneOrTwoDigits (← afterSign '-' rest)
  let (day, rest) ← oneOrTwoDigits (← afterSign '-' rest)
  match rest with
  | [] => return ⟨year, month, day, none⟩
  | c :: others =>
    if c = 'T' || c = 't' then return ⟨year, month, day, some (← clockAtEnd others)⟩
    else if isGap c then return ⟨year, month, day, some (← clockAtEnd (others.dropWhile isGap))⟩
    else none

/-- The form of a moment: a day alone has two digits for the month and two for the day. -/
def isMoment (s : List Char) : Bool :=
  match moment? s with
  | some moment => moment.clock.isSome || s.length = 10
  | none => false

/-! ## The tag of a form -/

def withoutLastBreak (s : List Char) : List Char :=
  if s.getLast? = some '\n' then s.dropLast else s

/-- The tag of a scalar that has no other tag, by the form of its text. An end of a line at the
end does not count. -/
def formOf (s : String) : Tag :=
  let characters := withoutLastBreak s.toList
  let word := String.ofList characters
  if s ≠ "" && word = "" then .str
  else if truthWords.contains word then .bool
  else if isReal characters then .float
  else if isWhole characters then .int
  else if word = mergeWord then .merge
  else if nothingWords.contains word then .null
  else if isMoment characters then .timestamp
  else if word = valueWord then .value
  else .str

/-! ## Values -/

def readTruth (s : String) : Except Failure Value :=
  let word := Text.lowerCase s
  if ["yes", "true", "on"].contains word then .ok (.bool true)
  else if ["no", "false", "off"].contains word then .ok (.bool false)
  else .error (.missingKey word (Text.quoted word))

def wholeOf (s : List Char) : Except Failure Int :=
  match readWhole (String.ofList s) with
  | .ok number => .ok number
  | .error .malformed => .error (.wholeText (String.ofList s))
  | .error (.tooLong digits) => .error (.wholeTextTooLong digits)

def basedWhole (base : Nat) (s : List Char) : Except Failure Int :=
  match readBased? base (String.ofList s) with
  | some number => .ok number
  | none => .error (.basedText base (String.ofList s))

def readUnsigned : List Char → Except Failure Int
  | [] => .error (.indexOut "string")
  | '0' :: 'b' :: digits => basedWhole 2 digits
  | '0' :: 'x' :: digits => basedWhole 16 digits
  | c :: rest =>
    if c = '0' then if rest.isEmpty then .ok 0 else basedWhole 8 (c :: rest)
    else
      match Text.splitChar ':' (c :: rest) with
      | first :: second :: others => do
        let parts ← (first :: second :: others).mapM wholeOf
        return parts.foldl (fun total part => total * 60 + part) 0
      | _ => wholeOf (c :: rest)

def readWholeScalar (s : String) : Except Failure Value :=
  match s.toList.filter (· ≠ '_') with
  | [] => .error (.indexOut "string")
  | c :: rest => do
    let number ← readUnsigned (unsigned (c :: rest))
    return .int (if c = '-' then -number else number)

def realOf (s : List Char) : Except Failure Float :=
  match readFloat? (String.ofList s) with
  | some number => .ok number
  | none => .error (.realText (String.ofList s))

/-- The sum of parts that count for more from the last one to the first one. -/
def weighted (total : Float) (weight : Nat) : List Float → Float
  | [] => total
  | part :: parts =>
    weighted (total + part * (ofInt? weight).getD (infinity false)) (weight * 60)
      parts

def readRealScalar (s : String) : Except Failure Value :=
  match (Text.lowerCase (String.ofList (s.toList.filter (· ≠ '_')))).toList with
  | [] => .error (.indexOut "string")
  | c :: rest => do
    let body := unsigned (c :: rest)
    let signed := fun (x : Float) => if c = '-' then -1.0 * x else x
    if body = ".inf".toList then return .float (signed (infinity false))
    else if body = ".nan".toList then return .undefined 0
    else
      match Text.splitChar ':' body with
      | first :: second :: others => do
        let parts ← (first :: second :: others).mapM realOf
        return .float (signed (weighted 0.0 1 parts.reverse))
      | _ => do return .float (signed (← realOf body))

def readMoment (s : String) : Except Failure Value :=
  match moment? (withoutLastBreak s.toList) with
  | none => .error (.noAttribute "NoneType" "groupdict")
  | some moment => do
    match moment.clock.bind (·.ahead) with
    | some minutes => Moment.checkAhead minutes
    | none => pure ()
    return .moment (← moment.checked)

def sixtyFourValue? (c : Char) : Option Nat :=
  if 'A' ≤ c ∧ c ≤ 'Z' then some (c.toNat - 'A'.toNat)
  else if 'a' ≤ c ∧ c ≤ 'z' then some (c.toNat - 'a'.toNat + 26)
  else if '0' ≤ c ∧ c ≤ '9' then some (c.toNat - '0'.toNat + 52)
  else if c = '+' then some 62
  else if c = '/' then some 63
  else none

/-- The bytes of digits in base sixty-four, four of which stand for three bytes: `held` are the
digits of an open group, and `marks` the signs of equality that have filled it up. Other
characters do not count, and a group that is filled up ends the bytes. -/
def bytesFrom (held : List Nat) (marks : Nat) : List Char → Option (List UInt8)
  | [] => if held.isEmpty then some [] else none
  | c :: rest =>
    match held, sixtyFourValue? c with
    | [x, y, z], some w =>
      let number := ((x * 64 + y) * 64 + z) * 64 + w
      (bytesFrom [] 0 rest).map fun bytes =>
        UInt8.ofNat (number / 65536) :: UInt8.ofNat (number / 256 % 256) ::
          UInt8.ofNat (number % 256) :: bytes
    | held, some w => bytesFrom (held ++ [w]) 0 rest
    | held, none =>
      if c ≠ '=' then bytesFrom held marks rest
      else
        match held with
        | [x, y, z] =>
          let number := (x * 64 + y) * 64 + z
          some [UInt8.ofNat (number / 1024), UInt8.ofNat (number / 4 % 256)]
        | [x, y] =>
          if marks = 1 then some [UInt8.ofNat ((x * 64 + y) / 16)]
          else bytesFrom held (marks + 1) rest
        | held => bytesFrom held marks rest

def readBytes (s : String) : Outcome Value :=
  if s.toList.any fun c => 127 < c.toNat then refuse .badBinary
  else
    match bytesFrom [] 0 s.toList with
    | some bytes => .ok (.bytes (.bytes bytes))
    | none => refuse .badBinary

def readScalar (tag : Tag) (s : String) : Outcome Value :=
  match tag with
  | .str => .ok (.text s)
  | .null => .ok .none
  | .bool => ofValue (readTruth s)
  | .int => ofValue (readWholeScalar s)
  | .float => ofValue (readRealScalar s)
  | .timestamp => ofValue (readMoment s)
  | .binary => readBytes s
  | tag => refuse (.unknownTag tag.name)

end DeviceScript.Document
