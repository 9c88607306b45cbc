import DeviceScript.Calling.Thing

/-!
# Positions

A place on a screen that can be moved. Coordinates are values, so moving can fail.
-/

namespace DeviceScript

structure Position where
  x : Value
  y : Value
  deriving Inhabited

namespace Position

def toValue (pos : Position) : Value := .point 0 pos.x pos.y

/-- A coordinate after a move. A list takes up the items of what it is moved by. -/
def moved (coordinate distance : Value) : Except Failure Value :=
  match coordinate with
  | .list xs => do return .list (xs ++ (← distance.items))
  | coordinate => coordinate.addAs "+=" distance

def method (name : String) (params : List Parameter)
    (action : List Value → ActOn Position Value) : String × Method Position :=
  (name, ⟨⟨"Point.", name, true, params, none⟩, action⟩)

def methods : List (String × Method Position) :=
  let distance := [Parameter.required "value" (some "int")]
  [method "__init__" [.required "x" (some "int"), .required "y" (some "int")] fun
      | [x, y] => do
        set (Position.mk x y)
        return .none
      | _ => return .none,
    method "__str__" [] fun _ => do
      return .text (← ActOn.ofExcept (← get).toValue.display),
    method "offset_x" distance fun
      | [v] => do
        let x ← ActOn.ofExcept (moved (← get).x v)
        modify fun pos => { pos with x }
        return .none
      | _ => return .none,
    method "offset_y" distance fun
      | [v] => do
        let y ← ActOn.ofExcept (moved (← get).y v)
        modify fun pos => { pos with y }
        return .none
      | _ => return .none,
    method "to_tuple" [] fun _ => do return .tuple [(← get).x, (← get).y],
    method "to_list" [] fun _ => do return .list [(← get).x, (← get).y]]

def coordinate? (pos : Position) : String → Option Value
  | "x" => some pos.x
  | "y" => some pos.y
  | _ => none

def withCoordinate? (name : String) (v : Value) (pos : Position) : Option Position :=
  match name with
  | "x" => some { pos with x := v }
  | "y" => some { pos with y := v }
  | _ => none

def interface : Interface Position := .of "Point" methods coordinate? withCoordinate?

end Position

end DeviceScript
