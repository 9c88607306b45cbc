import DeviceScript.Value.Basic

/-!
# Equality and order of values

Numbers of all sorts are equal if they stand for the same number, and a whole number is
compared with a fraction without rounding. Points, hints, pictures, trees and failures are equal
only to themselves. An outcome that is no number is equal to nothing, itself included; yet
sequences are equal if their items are equal or are one and the same (`alike`), and members and
keys are found in the same way. Order is defined on numbers, on texts, on sequences of
one sort, on paths, on moments of one sort, and on sets by inclusion; any other pair has none.
-/

namespace DeviceScript

open DeviceScript.Number

/-- Order of two numbers of the binary format; none if one of them equals nothing. -/
def orderFloats (x y : Float) : Option Ordering :=
  if x < y then some .lt else if y < x then some .gt else if x == y then some .eq else none

/-- Order of a whole number and a number of the binary format, without rounding. -/
def orderWhole (n : Int) (x : Float) : Option Ordering :=
  match read x with
  | .notANumber => none
  | .infinite neg => some (if neg then .gt else .lt)
  | .finite neg mantissa exp => some (compareInt n neg mantissa exp)

namespace Value

/-- Order of two numbers; the outer nothing means that one of them is no number, the inner
that they have no order. -/
def orderNumbers? (left right : Value) : Option (Option Ordering) :=
  match left.real?, right.real? with
  | some x, some y => some (orderFloats x y)
  | some x, Option.none => right.whole?.map fun n => (orderWhole n x).map Ordering.swap
  | Option.none, some y => left.whole?.map fun n => orderWhole n y
  | Option.none, Option.none =>
    match left.whole?, right.whole? with
    | some n, some m => some (some (compare n m))
    | _, _ => Option.none

/-- The values are one and the same outcome that is no number. -/
def same : Value → Value → Bool
  | .undefined serial, .undefined other => serial == other
  | _, _ => false

mutual

/-- Two values are equal. Values that a serial number marks are compared by it. -/
def equal : Value → Value → Bool
  | .none, .none => true
  | .text x, .text y => x == y
  | .list xs, .list ys => alikeAll xs ys
  | .tuple xs, .tuple ys => alikeAll xs ys
  | .set xs, .set ys => xs.length == ys.length && subset xs ys
  | .dict xs, .dict ys => xs.length == ys.length && entriesWithin xs ys
  | .path p, .path q => p == q
  | .moment left, .moment right => left.order? right == some .eq
  | .bytes data, .bytes other => data == other
  | .point serial .., .point other .. => serial == other
  | .tip serial _, .tip other _ => serial == other
  | .image picture, .image other => picture.serial == other.serial
  | .tree serial _, .tree other _ => serial == other
  | .failure serial _, .failure other _ => serial == other
  | left, right => orderNumbers? left right == some (some .eq)

/-- The lists have the same length, and their items are equal or the same. -/
def alikeAll : List Value → List Value → Bool
  | [], [] => true
  | x :: xs, y :: ys => (same x y || equal x y) && alikeAll xs ys
  | _, _ => false

/-- Every item of the first list has one alike in the second. -/
def subset : List Value → List Value → Bool
  | [], _ => true
  | x :: xs, ys => (ys.any fun y => same x y || equal x y) && subset xs ys

/-- Every key of the first list has an equal value in the second. -/
def entriesWithin : List (Value × Value) → List (Value × Value) → Bool
  | [], _ => true
  | (key, v) :: rest, others =>
    (others.any fun entry =>
      (same key entry.1 || equal key entry.1) && (same v entry.2 || equal v entry.2)) &&
      entriesWithin rest others

end

/-- The values are equal, or they are one and the same. -/
def alike (left right : Value) : Bool := same left right || equal left right

/-- Some item is alike. -/
def among (v : Value) (xs : List Value) : Bool := xs.any fun item => alike v item

/-- The value at a key that is alike. -/
def lookup? (key : Value) (entries : List (Value × Value)) : Option Value :=
  (entries.find? fun entry => alike key entry.1).map (·.2)

/-- Puts a value at a key: in place of a key alike, else at the end. -/
def insertEntry (key v : Value) : List (Value × Value) → List (Value × Value)
  | [] => [(key, v)]
  | entry :: entries =>
    if alike key entry.1 then (entry.1, v) :: entries
    else entry :: insertEntry key v entries

/-- The entries without those at a key. -/
def eraseEntry (key : Value) (entries : List (Value × Value)) : List (Value × Value) :=
  entries.filter fun entry => !alike key entry.1

end Value

/-- The four signs of order. -/
inductive OrderSign where
  | less
  | greater
  | atMost
  | atLeast
  deriving DecidableEq, Inhabited

def OrderSign.text : OrderSign → String
  | .less => "<"
  | .greater => ">"
  | .atMost => "<="
  | .atLeast => ">="

/-- The sign holds of two things in this order. -/
def OrderSign.holds : OrderSign → Ordering → Bool
  | .less, order => order == .lt
  | .greater, order => order == .gt
  | .atMost, order => order != .gt
  | .atLeast, order => order != .lt

namespace Value

/-- The sign holds of two sets, ordered by inclusion. -/
def setOrder (sign : OrderSign) (xs ys : List Value) : Bool :=
  match sign with
  | .less => subset xs ys && !subset ys xs
  | .greater => subset ys xs && !subset xs ys
  | .atMost => subset xs ys
  | .atLeast => subset ys xs

/-- Texts are ordered character by character. -/
def orderTexts (x y : String) : Ordering :=
  if x < y then .lt else if y < x then .gt else .eq

/-- The first names that differ decide, else the lengths. -/
def orderNames : List String → List String → Ordering
  | [], [] => .eq
  | [], _ :: _ => .lt
  | _ :: _, [] => .gt
  | x :: xs, y :: ys =>
    match orderTexts x y with
    | .eq => orderNames xs ys
    | order => order

/-- The names on a path, with its root if it has one. -/
def pathNames (place : Path) : List String :=
  if place.root = "" then place.parts else place.root :: place.parts

mutual

/-- The sign holds of the values, or they have no order. -/
def ordered (sign : OrderSign) : Value → Value → Except Failure Bool
  | .text x, .text y => .ok (sign.holds (orderTexts x y))
  | .list xs, .list ys => orderedAll sign xs ys
  | .tuple xs, .tuple ys => orderedAll sign xs ys
  | .set xs, .set ys => .ok (setOrder sign xs ys)
  | .path p, .path q => .ok (sign.holds (orderNames (pathNames p) (pathNames q)))
  | .moment first, .moment second =>
    match first.order? second with
    | some order => .ok (sign.holds order)
    | Option.none =>
      .error (.order sign.text ("datetime." ++ first.sort) ("datetime." ++ second.sort))
  | left, right =>
    match orderNumbers? left right with
    | some (some order) => .ok (sign.holds order)
    | some Option.none => .ok false
    | Option.none => .error (.order sign.text left.typeName right.typeName)

/-- The sign holds of the lists: the first items that are not alike decide, else the
lengths. -/
def orderedAll (sign : OrderSign) : List Value → List Value → Except Failure Bool
  | [], [] => .ok (sign.holds .eq)
  | [], _ :: _ => .ok (sign.holds .lt)
  | _ :: _, [] => .ok (sign.holds .gt)
  | x :: xs, y :: ys => if alike x y then orderedAll sign xs ys else ordered sign x y

end

/-! ## Collections without repeated members -/

/-- A value put in front of the first one that is greater, if it has an order to it. -/
def insertInOrder (v : Value) : List Value → List Value
  | [] => [v]
  | other :: others =>
    if (ordered .less v other).toOption.getD false then v :: other :: others
    else other :: insertInOrder v others

/-- The mapping with some entries, of which the last one of a key counts, in the place of the
first one. -/
def ofEntries (entries : List (Value × Value)) : Value :=
  .dict (entries.foldl (fun dict entry => insertEntry entry.1 entry.2 dict) [])

/-- The set of some values, in order as far as they have one. -/
def setOf (vs : List Value) : Value :=
  let unique := vs.foldl (fun dict v => insertEntry v .none dict) []
  .set (unique.foldl (fun others entry => insertInOrder entry.1 others) [])

end Value

end DeviceScript
