import DeviceScript.Number.Word
import DeviceScript.Value.Compare
import DeviceScript.Value.Show

/-!
# Arithmetic on values

Whole numbers are unbounded, and truth values count as zero and one. A quotient of whole
numbers is rounded once. Texts and sequences can be joined and repeated, and a path can be
extended by a division sign.
-/

namespace DeviceScript

open DeviceScript.Number

/-- A number ready for one of the four operations. -/
inductive Numeral where
  | whole (v : Int)
  | real (v : Float)

/-- The nearest number of the binary format. -/
def realOfWhole (n : Int) : Except Failure Float :=
  match ofInt? n with
  | some x => .ok x
  | none => .error .wholeTooLarge

namespace Value

/-- The number that a value is. -/
def numeral? (v : Value) : Option Numeral :=
  match v.real? with
  | some x => some (.real x)
  | Option.none => v.whole?.map .whole

/-- Applies one of the operations to two numbers, if both values are numbers. -/
def numeric? (onWholes : Int → Int → Except Failure Value) (onReals : Float → Float → Float)
    (left right : Value) : Option (Except Failure Value) :=
  match left.numeral?, right.numeral? with
  | some (.whole n), some (.whole m) => some (onWholes n m)
  | some (.whole n), some (.real y) =>
    some ((realOfWhole n).map fun x => .float (onReals x y))
  | some (.real x), some (.whole m) =>
    some ((realOfWhole m).map fun y => .float (onReals x y))
  | some (.real x), some (.real y) => some (.ok (.float (onReals x y)))
  | _, _ => Option.none

/-- The sum of two values. `sign` is how the operation is written. -/
def addAs (sign : String) (left right : Value) : Except Failure Value :=
  match numeric? (fun n m => .ok (.int (n + m))) (· + ·) left right with
  | some outcome => outcome
  | Option.none =>
    match left, right with
    | .text x, .text y => .ok (.text (x ++ y))
    | .list xs, .list ys => .ok (.list (xs ++ ys))
    | .tuple xs, .tuple ys => .ok (.tuple (xs ++ ys))
    | .text _, other => .error (.concatenation "str" other.typeName)
    | .list _, other => .error (.concatenation "list" other.typeName)
    | .tuple _, other => .error (.concatenation "tuple" other.typeName)
    | _, _ => .error (.operands sign left.typeName right.typeName)

def add (left right : Value) : Except Failure Value := addAs "+" left right

/-- The difference of two numbers or sets. -/
def subtract (left right : Value) : Except Failure Value :=
  match numeric? (fun n m => .ok (.int (n - m))) (· - ·) left right with
  | some outcome => outcome
  | Option.none =>
    match left, right with
    | .set xs, .set ys => .ok (.set (xs.filter fun x => !among x ys))
    | _, _ => .error (.operands "-" left.typeName right.typeName)

/-- The size of a word that counts items. -/
def lengthBits : Nat := 64

/-- The most items that a sequence can have: each takes eight bytes, and a word counts them all. -/
def repetitionLimit : Nat := Number.twoTo 60 - 1

/-- A list repeated, not at all if the number is negative. -/
def repeated {α : Type} (xs : List α) (times : Int) : Except Failure (List α) :=
  if !Number.fits lengthBits times then .error .repetitionTooLarge
  else if xs.isEmpty then .ok []
  else if repetitionLimit < xs.length * times.toNat then .error .outOfMemory
  else .ok (List.replicate times.toNat xs).flatten

/-- A text repeated: the length of the outcome has to fit into a word as well. -/
def repeatedText (s : String) (times : Int) : Except Failure String :=
  if Number.fits lengthBits times && !Number.fits lengthBits (s.length * times.toNat) then
    .error .repeatedTextTooLong
  else (repeated s.toList times).map String.ofList

/-- A text or sequence repeated. -/
def repeat? (sequence times : Value) : Option (Except Failure Value) :=
  match sequence with
  | .text x => some (match times.whole? with
    | some n => (repeatedText x n).map .text
    | Option.none => .error (.repetition times.typeName))
  | .list xs => some (match times.whole? with
    | some n => (repeated xs n).map .list
    | Option.none => .error (.repetition times.typeName))
  | .tuple xs => some (match times.whole? with
    | some n => (repeated xs n).map .tuple
    | Option.none => .error (.repetition times.typeName))
  | _ => Option.none

/-- The product of two numbers, or a repetition in either order. -/
def multiply (left right : Value) : Except Failure Value :=
  match numeric? (fun n m => .ok (.int (n * m))) (· * ·) left right with
  | some outcome => outcome
  | Option.none =>
    match repeat? left right with
    | some outcome => outcome
    | Option.none =>
      match repeat? right left with
      | some outcome => outcome
      | Option.none => .error (.operands "*" left.typeName right.typeName)

/-- The quotient of two whole numbers, rounded once. -/
def quotient (n m : Int) : Except Failure Value :=
  if m = 0 then .error (.raised (.other "ZeroDivisionError") "division by zero")
  else
    match divideInts? n m with
    | some x => .ok (.float x)
    | Option.none => .error .quotientTooLarge

/-- The quotient of two numbers, or a path extended. -/
def divide (left right : Value) : Except Failure Value :=
  match numeric? quotient (· / ·) left right with
  | some outcome => outcome
  | Option.none =>
    match left, right with
    | .path p, .path q => .ok (.path (p.append q))
    | .path p, .text y => .ok (.path (p.append (Path.ofText y)))
    | .text x, .path q => .ok (.path ((Path.ofText x).append q))
    | _, _ => .error (.operands "/" left.typeName right.typeName)

/-- What is left of one number when it is divided by another, with the sign of the divisor. -/
def modulo (left right : Value) : Except Failure Value :=
  let byZero := fun words => Except.error (.raised (.other "ZeroDivisionError") words)
  let onReals := fun (x y : Float) =>
    match remainder? x y with
    | some rest => .ok (.float rest)
    | Option.none => byZero "float modulo"
  match left.numeral?, right.numeral? with
  | some (.whole n), some (.whole m) =>
    if m = 0 then byZero "integer modulo by zero" else .ok (.int (n.fmod m))
  | some (.whole n), some (.real y) => do onReals (← realOfWhole n) y
  | some (.real x), some (.whole m) => do onReals x (← realOfWhole m)
  | some (.real x), some (.real y) => onReals x y
  | _, _ => .error (.operands "%" left.typeName right.typeName)

/-- Half of a number, rounded down. -/
def half (v : Value) : Except Failure Value :=
  match v.numeral? with
  | some (.whole n) => .ok (.int (n.fdiv 2))
  | some (.real x) =>
    match read x with
    | .finite .. => .ok (.float (if -2.0 < x && x < 0.0 then -1.0 else (x / 2.0).floor))
    | _ => .ok (.float notANumber)
  | Option.none => .error (.operands "//" v.typeName "int")

def negate (v : Value) : Except Failure Value :=
  match v.numeral? with
  | some (.whole n) => .ok (.int (-n))
  | some (.real x) => .ok (.float (-x))
  | Option.none => .error (.negation v.typeName)

/-- The whole number that a value is read as; fractions are cut off. -/
def toWhole : Value → Except Failure Int
  | .undefined _ => .error .notANumberToWhole
  | .float x =>
    match read x with
    | .notANumber => .error .notANumberToWhole
    | .infinite _ => .error .infinityToWhole
    | .finite neg mantissa exp => .ok (truncated neg mantissa exp)
  | .text s =>
    match readWhole s with
    | .ok n => .ok n
    | .error .malformed => .error (.wholeText s)
    | .error (.tooLong digits) => .error (.wholeTextTooLong digits)
  | v =>
    match v.whole? with
    | some n => .ok n
    | Option.none => .error (.wholeFrom v.typeName)

/-- The number of the binary format that a value is read as. -/
def toReal : Value → Except Failure Float
  | .undefined _ => .ok notANumber
  | .float x => .ok x
  | .text s =>
    match readFloat? s with
    | some x => .ok x
    | Option.none => .error (.realText s)
  | v =>
    match v.whole? with
    | some n => realOfWhole n
    | Option.none => .error (.realFrom v.typeName)

/-- A text can be read as a number with a fraction. Only a value of the wrong sort fails. -/
def isReal (v : Value) : Except Failure Bool :=
  match v.toReal with
  | .ok _ => .ok true
  | .error (.realText _) => .ok false
  | .error cause => .error cause

/-- The item of a sequence at a place, counted from the end if negative. -/
def itemAt (sequence : String) (xs : List Value) (place : Int) : Except Failure Value :=
  let index := if place < 0 then place + xs.length else place
  if !Number.fits lengthBits place then .error .indexTooLarge
  else if index < 0 then .error (.indexOut sequence)
  else
    match xs[index.toNat]? with
    | some item => .ok item
    | Option.none => .error (.indexOut sequence)

/-- The item at a whole place of a sequence, or the value at a key. -/
def index (container key : Value) : Except Failure Value :=
  match container with
  | .list xs =>
    match key.whole? with
    | some place => itemAt "list" xs place
    | Option.none => .error (.indexType "list" key.typeName)
  | .tuple xs =>
    match key.whole? with
    | some place => itemAt "tuple" xs place
    | Option.none => .error (.indexType "tuple" key.typeName)
  | .text v =>
    match key.whole? with
    | some place =>
      itemAt "string" (v.toList.map fun c => .text (String.singleton c)) place
    | Option.none => .error (.raised .operandType
        ("string indices must be integers, not '" ++ key.typeName ++ "'"))
  | .dict entries =>
    match lookup? key entries with
    | some v => .ok v
    | Option.none => do .error (.missingKey (← key.display) (← key.inside))
  | v => .error (.notSubscriptable v.typeName)

def length : Value → Except Failure Nat
  | .text v => .ok v.length
  | .list xs => .ok xs.length
  | .tuple xs => .ok xs.length
  | .set xs => .ok xs.length
  | .dict entries => .ok entries.length
  | v => .error (.noLength v.typeName)

end Value

end DeviceScript
