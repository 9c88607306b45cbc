import DeviceScript.Value.Basic

/-!
# Devices and platforms

A device is a phone, the desktop or a browser, with what it remembers between operations. A
platform finds the devices of one sort. Devices are kept in one list and named by their number
in it, so that two platforms can hand out the same device.
-/

namespace DeviceScript

/-- A program that the desktop has been asked to start. -/
structure Application where
  executable : Value
  arguments : Value
  started : Bool
  deriving Inhabited

/-- A phone as a device. -/
structure Phone where
  name : Value
  serial : String
  /-- Whether clicks are spread around their place. -/
  spread : Value
  shot : ImageData
  deriving Inhabited

/-- The desktop as a device. -/
structure Workstation where
  name : Value
  applications : List (Value × Application)
  spread : Value
  shot : ImageData
  deriving Inhabited

/-- A browser as a device, started or not. -/
structure Browser where
  name : Value
  driver : Path
  /-- Pages that have been asked for, by their names. -/
  pages : List (Value × Value)
  /-- Which frame of the page the running browser is in: the numbers of the frames to enter. -/
  running : Option (List Nat)
  /-- The name of the page in messages, which only the outside can set. -/
  page : Option Value
  shot : ImageData
  deriving Inhabited

/-- Something that scripts operate. -/
inductive Device where
  | phone (phone : Phone)
  | workstation (workstation : Workstation)
  | browser (browser : Browser)
  deriving Inhabited

/-- What a device is selected by. -/
def Device.name : Device → Value
  | .phone state => state.name
  | .workstation state => state.name
  | .browser state => state.name

/-- The last picture of the screen. -/
def Device.shot : Device → ImageData
  | .phone state => state.shot
  | .workstation state => state.shot
  | .browser state => state.shot

/-- The device with another last picture. -/
def Device.withShot (shot : ImageData) : Device → Device
  | .phone state => .phone { state with shot }
  | .workstation state => .workstation { state with shot }
  | .browser state => .browser { state with shot }

/-- How the program names the type of a device. -/
def Device.sort : Device → String
  | .phone _ => "AdbDevice"
  | .workstation _ => "WindowsDevice"
  | .browser _ => "WebDevice"

/-- A finder of devices of one sort, with the devices that it has found. -/
inductive Platform where
  | phones (devices : List Nat)
  | desktop (devices : List Nat)
  | browsers (edge chrome firefox : Path) (devices : List Nat)
  deriving Inhabited

/-- All devices, the platforms that have been loaded, and the devices in use. -/
structure Fleet where
  devices : Array Device
  platforms : List Platform
  /-- The device that has been selected last, by whatever script. -/
  current : Option Nat
  /-- The device that a plain script keeps, whichever is selected elsewhere. -/
  held : Nat → Option Nat
  deriving Inhabited

/-- No devices at all. -/
def Fleet.empty : Fleet := ⟨#[], [], none, fun _ => none⟩

end DeviceScript
