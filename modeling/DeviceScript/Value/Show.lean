import DeviceScript.Number.Written
import DeviceScript.Value.Basic

/-!
# Values as text

A value has two written forms: one that stands alone, and one that stands inside a list. They
differ for text, which is quoted inside a list, and for the values that show themselves by a
message of their own. A whole number of too many digits has no written form, and neither has
a tree of two operands.
-/

namespace DeviceScript

open DeviceScript.Script

/-- The digits of a whole number, unless they are too many. -/
def wholeText (n : Int) : Except Failure String :=
  if Number.tenTo Number.digitLimit ≤ n.natAbs then .error .wholeTooLong else .ok (toString n)

namespace Value

/-- Stands for the place in memory that a value without a written form is shown with. -/
def anonymous (sort : String) : String := "<" ++ sort ++ " object>"

mutual

/-- The form of a value inside a list. -/
def inside : Value → Except Failure String
  | .none => .ok "None"
  | .bool v => .ok (if v then "True" else "False")
  | .int v => wholeText v
  | .float v => .ok (Number.floatText v)
  | .undefined _ => .ok (Number.floatText Number.notANumber)
  | .text v => .ok (Text.quoted v)
  | .list xs => do
    let parts ← insideAll xs
    return "[" ++ Text.join ", " parts ++ "]"
  | .tuple xs => do
    match ← insideAll xs with
    | [only] => return "(" ++ only ++ ",)"
    | parts => return "(" ++ Text.join ", " parts ++ ")"
  | .set xs => do
    match ← insideAll xs with
    | [] => return "set()"
    | parts => return "\x7b" ++ Text.join ", " parts ++ "\x7d"
  | .dict entries => do
    let parts ← insidePairs entries
    return "\x7b" ++ Text.join ", " parts ++ "\x7d"
  | .path place => .ok ("PosixPath(" ++ Text.quoted place.render ++ ")")
  | .failure serial cause => .ok ((Value.failure serial cause).typeName ++ "(" ++
      Text.quoted cause.message ++ ")")
  | .tree _ node => .ok (anonymous node.sort)
  | .point .. => .ok (anonymous "Point")
  | .tip .. => .ok (anonymous "Tip")
  | .image _ => .ok (anonymous "Image")
  | .table _ => .ok (anonymous "Table")
  | .hostPath _ => .ok (anonymous "LuaPath")
  | .moment time => .ok time.inside
  | .bytes data => .ok (if data = .bytes [] then "b''" else anonymous "bytes")
  | .callable => .ok (anonymous "function")
  | .object sort => .ok (anonymous sort)

def insideAll : List Value → Except Failure (List String)
  | [] => .ok []
  | item :: xs => do
    let first ← item.inside
    return first :: (← insideAll xs)

def insidePairs : List (Value × Value) → Except Failure (List String)
  | [] => .ok []
  | (key, v) :: entries => do
    let left ← key.inside
    let right ← v.inside
    return (left ++ ": " ++ right) :: (← insidePairs entries)

end

/-- A text as it is, and any other value as inside a list. -/
def displayLeaf : Value → Except Failure String
  | .text v => .ok v
  | v => v.inside

/-- The form of a value that stands alone. -/
def display : Value → Except Failure String
  | .text v => .ok v
  | .path place => .ok place.render
  | .hostPath place => .ok place.render
  | .tip _ message => .ok message
  | .moment time => .ok time.render
  | .image picture => .ok picture.render
  | .failure _ cause => .ok cause.message
  | .point _ x y => do
    let left ← display x
    let right ← display y
    return "坐标 (" ++ left ++ ", " ++ right ++ ")"
  | .tree _ (.number content) => .ok ("Number token:" ++ (Token.mk .number content).render)
  | .tree _ (.string content) => .ok ("String token:" ++ (Token.mk .string content).render)
  | .tree _ (.variable name) => .ok ("Variable token:" ++ (Token.mk .identifier name).render)
  | .tree _ (.binary ..) => .error (.noAttribute "BinOp" "mode")
  | .tree _ (.position x y) => do
    let left ← displayLeaf x.quote
    let right ← displayLeaf y.quote
    return "Point x:" ++ left ++ ", y:" ++ right
  | .tree _ node => .ok node.sort
  | v => v.inside

end Value

end DeviceScript
