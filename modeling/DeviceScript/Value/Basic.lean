import DeviceScript.Image.Raster
import DeviceScript.Path
import DeviceScript.Script.Tree
import DeviceScript.Value.Moment

/-!
# Values

Scripts compute with dynamic values. Points, hints, pictures, script trees and failures are told
apart by a serial number, because two of them are equal only if they are the same one. What
arithmetic gives where no number is right has such a number too: it is equal to nothing, but a
list that holds it is equal to itself.
-/

namespace DeviceScript

open DeviceScript.Script

/-- A value that a script, a device or a host program handles. -/
inductive Value where
  | none
  | bool (v : Bool)
  | int (v : Int)
  | float (v : Float)
  /-- What arithmetic gives where no number is right. -/
  | undefined (serial : Nat)
  | text (v : String)
  | list (items : List Value)
  | tuple (items : List Value)
  | set (items : List Value)
  | dict (entries : List (Value × Value))
  | path (path : Path)
  | point (serial : Nat) (x y : Value)
  /-- A hint to the user about what was done. -/
  | tip (serial : Nat) (message : String)
  | image (image : Image)
  | tree (serial : Nat) (t : Tree Value)
  | failure (serial : Nat) (e : Failure)
  /-- A table of the host of another script language. -/
  | table (entries : List (Value × Value))
  /-- A path as the host of another script language hands it out. -/
  | hostPath (path : Path)
  | moment (moment : Moment)
  /-- The content of a picture file. -/
  | bytes (data : ImageData)
  | callable
  /-- Anything else, known by the name of its sort. -/
  | object (sort : String)
  deriving Inhabited

namespace Value

/-- The name of the type of a value, as failures name it. -/
def typeName : Value → String
  | .none => "NoneType"
  | .bool _ => "bool"
  | .int _ => "int"
  | .float _ | .undefined _ => "float"
  | .text _ => "str"
  | .list _ => "list"
  | .tuple _ => "tuple"
  | .set _ => "set"
  | .dict _ => "dict"
  | .path _ => "PosixPath"
  | .point .. => "Point"
  | .tip .. => "Tip"
  | .image _ => "Image"
  | .tree _ node => node.sort
  | .failure _ cause =>
    match cause.kind with
    | .script => "RunException"
    | _ => "Exception"
  | .table _ => "Table"
  | .hostPath _ => "LuaPath"
  | .moment time => "datetime." ++ time.sort
  | .bytes _ => "bytes"
  | .callable => "function"
  | .object sort => sort

/-- The value counts as true in a condition. -/
def truthy : Value → Bool
  | .none => false
  | .bool v => v
  | .int v => v != 0
  | .float v => v != 0.0
  | .text v => !v.isEmpty
  | .list items => !items.isEmpty
  | .tuple items => !items.isEmpty
  | .set items => !items.isEmpty
  | .dict entries => !entries.isEmpty
  | .bytes data => data != .bytes []
  | _ => true

/-- A whole number, where truth values count as zero and one. -/
def whole? : Value → Option Int
  | .bool v => some (if v then 1 else 0)
  | .int v => some v
  | _ => Option.none

/-- The number of the binary format that the value is. -/
def real? : Value → Option Float
  | .float v => some v
  | .undefined _ => some Number.notANumber
  | _ => Option.none

/-- The value of an outcome of arithmetic; the serial number is for an outcome that is no number. -/
def ofReal (serial : Nat) (outcome : Float) : Value :=
  if outcome.isNaN then .undefined serial else .float outcome

/-- The items of a list or tuple. -/
def sequence? : Value → Option (List Value)
  | .list items => some items
  | .tuple items => some items
  | _ => Option.none

/-- A list or tuple with a list or tuple in it. -/
def isNested (v : Value) : Bool :=
  match v.sequence? with
  | some items => items.any fun item => item.sequence?.isSome
  | Option.none => false

mutual

/-- The type that keeps a value from being a key. -/
def unhashable? : Value → Option String
  | .list _ => some "list"
  | .set _ => some "set"
  | .dict _ => some "dict"
  | .tuple items => unhashableAmong? items
  | _ => Option.none

def unhashableAmong? : List Value → Option String
  | [] => Option.none
  | item :: items =>
    match unhashable? item with
    | some sort => some sort
    | Option.none => unhashableAmong? items

end

/-- What a loop over the value goes through. -/
def items : Value → Except Failure (List Value)
  | .list items => .ok items
  | .tuple items => .ok items
  | .set items => .ok items
  | .dict entries => .ok (entries.map (·.1))
  | .text v => .ok (v.toList.map fun c => .text (String.singleton c))
  | v => .error (.notIterable v.typeName)

/-- The path that a value stands for where one is asked for. -/
def toPath : Value → Except Failure Path
  | .text name => .ok (Path.ofText name)
  | .path place => .ok place
  | v =>
    .error (.raised .operandType
      ("expected str, bytes or os.PathLike object, not " ++ v.typeName))

end Value

mutual

/-- A tree as a value: ready values and lists stand for themselves, and any other tree takes the
next serial number. -/
def Script.Tree.quoted : Tree Value → StateM Nat Value
  | .missing => return .none
  | .literal v => return v
  | .list items => do return .list (← Script.Tree.quotedAll items)
  | t => modifyGet fun serial => (.tree serial t, serial + 1)

def Script.Tree.quotedAll : List (Tree Value) → StateM Nat (List Value)
  | [] => return []
  | t :: trees => do
    let v ← t.quoted
    return v :: (← Script.Tree.quotedAll trees)

end

def Script.Tree.quote (t : Tree Value) : Value := (t.quoted.run 0).1

end DeviceScript
