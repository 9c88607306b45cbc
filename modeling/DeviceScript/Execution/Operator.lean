import DeviceScript.Calling.Operation
import DeviceScript.Value.Arithmetic

/-!
# Operators

Operators work on two single values, or on two sequences item by item. Division by something
equal to zero gives zero and a warning.
-/

namespace DeviceScript.Execution

open Script

def isArithmetic (k : TokenKind) : Bool :=
  k = .plus || k = .minus || k = .times || k = .divide

/-- A result that is a value of its own. -/
def computed (outcome : Except Failure Value) : Act Value := do
  Act.distinct (← Act.ofExcept outcome)

/-- Divides; by nought there is a warning and nought. -/
def divide (left right : Value) : Act Value :=
  if right.equal (.int 0) then do
    Act.log .warning "0 作为除数是无意义的"
    return .int 0
  else computed (left.divide right)

/-- The outcome of an operator on two single values, or nothing for a kind that is no
operator. -/
def outcome? (k : TokenKind) (left right : Value) : Option (Act Value) :=
  let compare := fun (sign : OrderSign) =>
    (Act.ofExcept ((Value.ordered sign left right).map Value.bool) : Act Value)
  match k with
  | .plus => some (computed (left.add right))
  | .minus => some (computed (left.subtract right))
  | .times => some (computed (left.multiply right))
  | .divide => some (divide left right)
  | .equal => some (pure (.bool (left.equal right)))
  | .notEqual => some (pure (.bool (!left.equal right)))
  | .less => some (compare .less)
  | .greater => some (compare .greater)
  | .atMost => some (compare .atMost)
  | .atLeast => some (compare .atLeast)
  | _ => none

/-- Logs the operator with its operands. -/
def note (k : TokenKind) (left right : Value) : Act Unit := do
  let shown := (← Act.shown left) ++ " " ++ k.label ++ " " ++ (← Act.shown right)
  Act.log .debug ((if isArithmetic k then "判断 " else "计算 ") ++ shown)

/-- An operator on operands that are no vectors. -/
def scalar (k : TokenKind) (left right : Value) : Act Value := do
  note k left right
  match outcome? k left right with
  | some outcome => outcome
  | none => modifyGet (World.keepFailure (.unknownOperator k.label))

/-- An operator on the items of two sequences, up to the end of the shorter one. -/
def pointwise (k : TokenKind) : List Value → List Value → Act (List Value)
  | left :: lefts, right :: rights => do
    match outcome? k left right with
    | some outcome => do
      let item ← outcome
      return item :: (← pointwise k lefts rights)
    | none => return []
  | _, _ => return []

/-- An operator on two sequences: arithmetic gives the list of its outcomes, and a comparison
holds if it holds for all pairs of items. -/
def vector (k : TokenKind) (left right : Value) : Act Value := do
  if isArithmetic k then do
    let xs ← pointwise k (← Act.ofExcept left.items) (← Act.ofExcept right.items)
    note k left right
    return .list xs
  else
    match outcome? k left right with
    | none => do
      note k left right
      throw (.notContainer "RunException")
    | some _ => do
      let xs ← pointwise k (← Act.ofExcept left.items) (← Act.ofExcept right.items)
      note k left right
      return .bool (!Value.among (.bool false) xs)

/-- Operators go through it item by item. -/
def isVector : Value → Bool
  | .list _ => true
  | .tuple _ => true
  | .tree _ (.position ..) => true
  | _ => false

/-- An operator on two values. A text on the left is joined with whatever is on the right, and
a value that counts as true and is compared with nothing is tested for truth. -/
def operate (k : TokenKind) (left right : Value) : Act Value :=
  match left, right with
  | .text s, right => do return .text (s ++ " " ++ (← Act.shown right))
  | left, .none =>
    if left.truthy then
      return .bool (((left.sequence?.map fun xs => xs.all Value.truthy)).getD true)
    else scalar k left .none
  | left, right =>
    if isVector left && isVector right then vector k left right else scalar k left right

end DeviceScript.Execution
