import DeviceScript.Number.Fixed
import DeviceScript.Value.Arithmetic

/-!
# Templates

A template is a text with slots for values. A slot starts with a percent sign and ends with a
letter that says how its value is written; between them stand flags, a width and a precision.
Values are taken in order and have no names, so a slot that asks for one by its name in brackets is
refused.
-/

namespace DeviceScript.Template

/-- How the value at a slot is written. -/
structure Slot where
  leftAligned : Bool
  signed : Bool
  blank : Bool
  alternate : Bool
  zeros : Bool
  width : Nat
  precision : Option Nat
  letter : Char
  /-- Where the letter stands in the template. -/
  index : Nat

def Slot.start : Slot := ⟨false, false, false, false, false, 0, none, '%', 0⟩

/-- What is left of a template, and the values that are not yet taken. -/
structure Filling where
  rest : List Char
  index : Nat
  values : List Value

abbrev Fill := StateT Filling (Except Failure)

namespace Fill

def wrongSort {α : Type} (words : String) : Fill α := throw (.raised .operandType words)

def badTemplate {α : Type} (words : String) : Fill α := throw (.raised .badValue words)

def nextValue : Fill Value := do
  match (← get).values with
  | [] => wrongSort "not enough arguments for format string"
  | v :: vs => do
    modify fun filling => { filling with values := vs }
    return v

def nextChar : Fill Char := do
  match (← get).rest with
  | [] => badTemplate "incomplete format"
  | c :: rest => do
    modify fun filling => { filling with rest, index := filling.index + 1 }
    return c

/-! ## Slots -/

/-- Refuses a name in brackets, if one starts here. -/
def name : Fill Unit := do
  match (← get).rest with
  | '(' :: _ => wrongSort "format requires a mapping"
  | _ => pure ()

/-- Reads flags, and gives the first character behind them. -/
def flags : Nat → Slot → Fill (Slot × Char)
  | 0, slot => return (slot, ← nextChar)
  | fuel + 1, slot => do
    let c ← nextChar
    if c = '-' then flags fuel { slot with leftAligned := true }
    else if c = '+' then flags fuel { slot with signed := true }
    else if c = ' ' then flags fuel { slot with blank := true }
    else if c = '#' then flags fuel { slot with alternate := true }
    else if c = '0' then flags fuel { slot with zeros := true }
    else return (slot, c)

/-- Reads the digits of a number whose first one is given, and gives the character behind them. -/
def digits (most : Nat) (words : String) : Nat → Nat → Fill (Nat × Char)
  | 0, number => return (number, ← nextChar)
  | fuel + 1, number => do
    let c ← nextChar
    if !c.isDigit then return (number, c)
    else
      let number := number * 10 + (c.toNat - '0'.toNat)
      if most < number then badTemplate words else digits most words fuel number

def starValue (most : Nat) (sort : String) : Fill Int := do
  match (← nextValue).whole? with
  | none => wrongSort "* wants int"
  | some n =>
    if (most : Int) < n ∨ n < -(most : Int) - 1 then
      throw (.raised .overflow ("Python int too large to convert to C " ++ sort))
    else return n

def widest : Nat := Number.twoTo 63 - 1

def finest : Nat := Number.twoTo 31 - 1

def width (slot : Slot) (c : Char) : Fill (Slot × Char) := do
  if c = '*' then do
    let n ← starValue widest "ssize_t"
    let slot := if n < 0 then { slot with leftAligned := true } else slot
    return ({ slot with width := n.natAbs }, ← nextChar)
  else if c.isDigit then do
    let (width, c) ← digits widest "width too big" (← get).rest.length (c.toNat - '0'.toNat)
    return ({ slot with width }, c)
  else return (slot, c)

def precision (slot : Slot) (c : Char) : Fill (Slot × Char) := do
  if c ≠ '.' then return (slot, c)
  else do
    let c ← nextChar
    if c = '*' then do
      let n ← starValue finest "int"
      return ({ slot with precision := some n.toNat }, ← nextChar)
    else if c.isDigit then do
      let (precision, c) ←
        digits finest "precision too big" (← get).rest.length (c.toNat - '0'.toNat)
      return ({ slot with precision := some precision }, c)
    else return ({ slot with precision := some 0 }, c)

def slot : Fill Slot := do
  name
  let (slot, c) ← flags (← get).rest.length .start
  let (slot, c) ← width slot c
  let (slot, c) ← precision slot c
  let letter ← if c = 'h' || c = 'l' || c = 'L' then nextChar else pure c
  return { slot with letter, index := (← get).index - 1 }

end Fill

/-! ## Values -/

/-- A text filled up to the width of a slot, behind an optional sign and the mark of a base. -/
def Slot.padded (slot : Slot) (sign mark s : List Char) : List Char :=
  let gap := slot.width - (sign.length + mark.length + s.length)
  if slot.leftAligned then sign ++ mark ++ s ++ List.replicate gap ' '
  else if slot.zeros then sign ++ mark ++ List.replicate gap '0' ++ s
  else List.replicate gap ' ' ++ sign ++ mark ++ s

def Slot.sign (slot : Slot) (neg : Bool) : List Char :=
  if neg then ['-'] else if slot.signed then ['+'] else if slot.blank then [' '] else []

/-- A text at a slot, of which the precision says how much is written. -/
def Slot.textual (slot : Slot) (s : String) : List Char :=
  let characters := s.toList
  { slot with zeros := false }.padded [] []
    (match slot.precision with
      | some most => characters.take most
      | none => characters)

def asciiText (s : String) : String :=
  String.ofList (s.toList.flatMap fun c =>
    if c.toNat < 0x80 then [c]
    else if c.toNat < 0x100 then ['\\', 'x'] ++ Text.hexPadded 2 c.toNat
    else if c.toNat < 0x10000 then ['\\', 'u'] ++ Text.hexPadded 4 c.toNat
    else ['\\', 'U'] ++ Text.hexPadded 8 c.toNat)

def baseOf (letter : Char) : Nat :=
  if letter = 'o' then 8 else if letter = 'x' || letter = 'X' then 16 else 10

def Slot.wholeOf (slot : Slot) (v : Value) : Except Failure Int :=
  let refused := fun (wanted : String) =>
    .error (.raised .operandType ("%" ++ String.singleton slot.letter ++ " format: " ++ wanted ++
      " is required, not " ++ v.typeName))
  match v.real?, v.whole? with
  | _, some n => .ok n
  | some _, none => if baseOf slot.letter = 10 then v.toWhole else refused "an integer"
  | none, none => if baseOf slot.letter = 10 then refused "a real number" else refused "an integer"

def Slot.whole (slot : Slot) (v : Value) : Except Failure (List Char) := do
  let n ← slot.wholeOf v
  let base := baseOf slot.letter
  let plain ← if base = 10 then do pure (← wholeText n.natAbs).toList
    else pure (Nat.toDigits base n.natAbs)
  let digits := List.replicate (slot.precision.getD 0 - plain.length) '0' ++ plain
  let mark := if slot.alternate && base ≠ 10 then ['0', if base = 8 then 'o' else 'x'] else []
  let upper := fun (s : List Char) =>
    if slot.letter = 'X' then s.map Char.toUpper else s
  return slot.padded (slot.sign (n < 0)) (upper mark) (upper digits)

def realOf (v : Value) : Except Failure Float :=
  match v.real?, v.whole? with
  | some x, _ => .ok x
  | none, some n => realOfWhole n
  | none, none => .error (.raised .operandType ("must be real number, not " ++ v.typeName))

def Slot.real (slot : Slot) (v : Value) : Except Failure (List Char) := do
  let x ← realOf v
  let precision := slot.precision.getD 6
  let k := slot.letter.toLower
  let (neg, s) :=
    match Number.read x with
    | .notANumber => (false, "nan".toList)
    | .infinite neg => (neg, "inf".toList)
    | .finite neg mantissa exp =>
      (neg,
        if k = 'f' then Number.fixedText slot.alternate precision mantissa exp
        else if k = 'e' then Number.exponentialText slot.alternate precision mantissa exp
        else Number.generalText slot.alternate precision mantissa exp)
  let s := if slot.letter.isUpper then s.map Char.toUpper else s
  return slot.padded (slot.sign neg) [] s

def Slot.character (slot : Slot) (v : Value) : Except Failure (List Char) := do
  let c ←
    match v, v.whole? with
    | .text s, _ =>
      match s.toList with
      | [c] => .ok c
      | _ => .error (.raised .operandType "%c requires int or char")
    | _, some n =>
      if n < 0 ∨ 0x110000 ≤ n then .error (.raised .overflow "%c arg not in range(0x110000)")
      else .ok (Char.ofNat n.toNat)
    | _, none => .error (.raised .operandType "%c requires int or char")
  return { slot with zeros := false }.padded [] [] [c]

def shownLetter (letter : Char) : Char :=
  if 31 ≤ letter.toNat && letter.toNat ≤ 126 then letter else '?'

def Slot.filled (slot : Slot) (v : Value) : Except Failure (List Char) :=
  let letter := slot.letter
  if letter = 's' then do return slot.textual (← v.display)
  else if letter = 'r' then do return slot.textual (← v.inside)
  else if letter = 'a' then do return slot.textual (asciiText (← v.inside))
  else if "diuoxX".toList.contains letter then slot.whole v
  else if "eEfFgG".toList.contains letter then slot.real v
  else if letter = 'c' then slot.character v
  else
    .error (.raised .badValue ("unsupported format character '" ++
      String.singleton (shownLetter letter) ++ "' (0x" ++
      String.ofList (Nat.toDigits 16 letter.toNat) ++ ") at index " ++ toString slot.index))

/-! ## Templates -/

def fillFrom : Nat → Fill (List Char)
  | 0 => return []
  | fuel + 1 => do
    match (← get).rest with
    | [] => return []
    | '%' :: '%' :: rest => do
      modify fun filling => { filling with rest, index := filling.index + 2 }
      return '%' :: (← fillFrom fuel)
    | '%' :: rest => do
      modify fun filling => { filling with rest, index := filling.index + 1 }
      let slot ← Fill.slot
      let s ← liftM (slot.filled (← Fill.nextValue))
      return s ++ (← fillFrom fuel)
    | c :: rest => do
      modify fun filling => { filling with rest, index := filling.index + 1 }
      return c :: (← fillFrom fuel)

def fill (template : String) (vs : List Value) : Except Failure String := do
  let (s, filling) ← (fillFrom (template.length + 1)).run ⟨template.toList, 0, vs⟩
  if filling.values.isEmpty then return String.ofList s
  else .error (.raised .operandType "not all arguments converted during string formatting")

end DeviceScript.Template
