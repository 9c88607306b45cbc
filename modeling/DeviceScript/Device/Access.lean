import DeviceScript.Calling.Method
import DeviceScript.World.FileAction

/-!
# Operations on devices

What the operations of all devices share: reading and changing the state of a device by its
number, spreading clicks, joining texts, and saving pictures of the screen.
-/

namespace DeviceScript.Act

/-- The device with the number. -/
def deviceAt? (id : Nat) : Act (Option Device) := return (← get).fleet.devices[id]?

/-- Puts a device in the place of the one with the number. -/
def setDevice (id : Nat) (device : Device) : Act Unit :=
  modify fun w =>
    let devices := w.fleet.devices.setIfInBounds id device
    { w with fleet := { w.fleet with devices } }

/-- Adds a device and gives its number. -/
def addDevice (device : Device) : Act Nat :=
  modifyGet fun w =>
    (w.fleet.devices.size,
      { w with fleet := { w.fleet with devices := w.fleet.devices.push device } })

/-- A distance by which a click misses its place, at most as far as asked for. -/
def offset (most : Value) : Act Value := do
  let least ← ofExcept most.negate
  let w ← get
  let (number, dice) := w.dice.next
  set { w with dice }
  let span ← ofExcept (do (← most.subtract least).add (.int 1))
  ofExcept (do least.add (← Value.modulo (.int number) span))

/-- How far a click may miss its place. -/
def reach : Int := 5

/-- A coordinate, spread around its place if `spread` counts as true. -/
def scatter (spread coordinate : Value) : Act Value := do
  let distance ← if spread.truthy then offset (.int reach) else pure (.int 0)
  ofExcept (coordinate.add distance)

/-- Sleeps; a time that is no number is refused only after that. -/
def rest (seconds : Value) : Act Unit :=
  match Value.addAs "+=" (.float 0) seconds with
  | .ok (.float amount) => sleep seconds amount
  | .ok _ => sleep seconds 0
  | .error e => do
    sleep seconds 0
    throw e

/-- The texts of a list as one text; `place` is the number of the first of them. -/
def joinTexts (place : Nat) : List Value → Except Failure String
  | [] => .ok ""
  | .text s :: vs => do return s ++ (← joinTexts (place + 1) vs)
  | v :: _ =>
    .error (.raised .operandType ("sequence item " ++ toString place ++
      ": expected str instance, " ++ v.typeName ++ " found"))

/-- A list of texts as one text; any other value is left as it is. -/
def joined : Value → Except Failure Value
  | .list vs => do return .text (← joinTexts 0 vs)
  | v => .ok v

/-- Where a picture of the screen is saved: where the caller wants it, else under the given
name if the settings ask for that. -/
def pictureTarget (name : String) (wanted : Value) : Act (Option Value) := do
  let settings ← settings "save_screenshot"
  if wanted.truthy then return some wanted
  else if settings.saveScreenshot then
    return some (.path ((← get).home.append (Path.ofText (name ++ ".png"))))
  else return none

/-- Writes a picture to a file. -/
def savePicture (target : Value) (raster : Raster) : Act Unit := do
  match target with
  | .text s => writeFile s (.picture raster)
  | .path path => writeFile path.render (.picture raster)
  | v =>
    throw (.raised .operandType
      ("expected str, bytes or os.PathLike object, not " ++ v.typeName))

/-- Keeps a picture with the device. -/
def setShot (id : Nat) (shot : ImageData) : Act Unit := do
  match ← deviceAt? id with
  | some device => setDevice id (device.withShot shot)
  | none => return ()

/-- The last picture of the device, for a script. -/
def lastShot (id : Nat) : Act Value := do
  picture none (((← deviceAt? id).map Device.shot).getD (.bytes []))

/-- A hint, and the last picture with it. -/
def handOut (id : Nat) (message : String) : Act Value := do
  let tip ← tip message
  return .tuple [tip, ← lastShot id]

/-- Takes a picture of a screen and saves it if there is a place for it. The texts are what is said
of a picture in a file, up to the name of the file, and what is done otherwise. -/
def takePicture (id : Nat) (screen : Except Failure Raster) (target : Option Value) (saved : String)
    (unsaved : Act Value) (failed : Failure → Act Value) : Act Value := do
  let answer ← attempt do
    let raster ← ofExcept screen
    setShot id (.raster raster)
    match target with
    | none => unsaved
    | some target => do
      savePicture target raster
      handOut id (saved ++ (← shown target))
  match answer with
  | .ok answer => return answer
  | .error e => failed e

end DeviceScript.Act

namespace DeviceScript

/-- An operation of a type of device. -/
def deviceOperation (owner name : String) (params : List Parameter)
    (documentation : Option String) (action : List Value → Act Value) : String × Member :=
  (name, .operation ⟨⟨owner ++ ".", name, true, params, documentation⟩, action⟩)

/-- The operation that calls another one by its name. -/
def callOperation (find : String → Act (Option Member)) : String × Member :=
  deviceOperation "Devices" "__call__" [.variadic "args" none] none fun
    | [.tuple args] => callByName find args
    | _ => return .none

/-- What every device has besides its own members: nothing is noted about it, and it decides no
comparison with another value. -/
def commonMember? (sort name : String) : Option Member :=
  if ["__doc__", "__weakref__"].contains name then some (.value .none)
  else if ["__eq__", "__ne__", "__lt__", "__le__", "__gt__", "__ge__"].contains name then
    some (deviceOperation sort name [⟨"value", .positionalOnly, none, none⟩] none fun _ =>
      return .object "NotImplementedType").2
  else none

end DeviceScript
