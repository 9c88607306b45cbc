import DeviceScript.Device.State
import DeviceScript.Value.Show
import DeviceScript.World.Files
import DeviceScript.World.Log
import DeviceScript.World.Request
import DeviceScript.World.Settings
import DeviceScript.World.Surroundings

/-!
# The world of a run

Everything that the program can see and change, and actions on it. An action either gives a
value or fails, and it may have changed the world in both cases.
-/

namespace DeviceScript

/-- What the program sees and changes. -/
structure World where
  settings : Option Settings
  threshold : Threshold
  records : Array LogRecord
  requests : Array Request
  notices : Array Notice
  files : FileTree
  home : Path
  dice : Chance
  lots : Chance
  surroundings : Surroundings
  /-- How many times a started process has been asked whether it has ended. -/
  polled : Nat
  clock : Float
  /-- The number that the next value gets that is told apart by one. -/
  serials : Nat
  fleet : Fleet
  written : Array String
  /-- How many hundredths of a second a running script has waited. -/
  waited : Nat
  deriving Inhabited

/-- The world before anything has happened. -/
def World.initial (surroundings : Surroundings) : World where
  settings := none
  threshold := .named "INFO"
  records := #[]
  requests := #[]
  notices := #[]
  files := FileTree.empty
  home := Path.here
  dice := ⟨[], 0⟩
  lots := ⟨[], 0⟩
  surroundings := surroundings
  polled := 0
  clock := 0
  serials := 1
  fleet := Fleet.empty
  written := #[]
  waited := 0

/-- A failure as a value, with a serial number of its own. -/
def World.keepFailure (e : Failure) (w : World) : Value × World :=
  (.failure w.serials e, { w with serials := w.serials + 1 })

/-- An action in the world, which can fail. -/
abbrev Act := ExceptT Failure (StateM World)

namespace Act

/-- How an action ends, and the world after it. -/
def perform {α : Type} (act : Act α) (w : World) : Except Failure α × World :=
  act.run.run w

def fail {α : Type} (e : Failure) : Act α := throw e

def ofExcept {α : Type} : Except Failure α → Act α
  | .ok v => pure v
  | .error e => throw e

/-- Does something; its failure is a result. -/
def attempt {α : Type} (act : Act α) : Act (Except Failure α) := fun w =>
  match act.perform w with
  | (outcome, w) => (.ok outcome, w)

/-- Writes a record to the log, if the threshold keeps it. -/
def log (level : Level) (message : String) : Act Unit :=
  modify fun w =>
    if w.threshold.keeps level then
      { w with records := w.records.push ⟨level, message⟩ }
    else w

/-- Notes a request to what is outside. -/
def request (channel : Channel) (verb : String) (args : List Value)
    (named : List (String × Value)) : Act Unit :=
  modify fun w =>
    { w with requests := w.requests.push ⟨channel, verb, args, named⟩ }

/-- Raises what the surroundings refuse a request with. -/
def heed (request : Request) : Act Unit := do
  match (← get).surroundings.refusal request with
  | some e => throw e
  | none => return ()

/-- Asks for something that the surroundings may refuse. -/
def demand (channel : Channel) (verb : String) (args : List Value)
    (named : List (String × Value)) : Act Unit := do
  request channel verb args named
  heed ⟨channel, verb, args, named⟩

/-- Notes a notice to the user. -/
def notify (args : List Value) (named : List (String × Value)) : Act Unit :=
  modify fun w => { w with notices := w.notices.push ⟨args, named⟩ }

/-- The first of as many numbers as are asked for, none of which a value has yet. -/
def serialsFor (count : Nat) : Act Nat :=
  modifyGet fun w => (w.serials, { w with serials := w.serials + count })

/-- A new serial number. -/
def serial : Act Nat := serialsFor 1

/-- A new outcome of arithmetic, which is told apart from all others if it is no number. -/
def distinct : Value → Act Value
  | .float outcome => do return Value.ofReal (← serial) outcome
  | v => return v

/-- A tree as a value, with new serial numbers. -/
def quoted (t : Tree Value) : Act Value :=
  modifyGet fun w =>
    let (v, serials) := t.quoted.run w.serials
    (v, { w with serials })

/-- A hint, which is a value of its own. -/
def tip (message : String) : Act Value := do return .tip (← serial) message

/-- A picture, which is a value of its own. -/
def picture (name : Option String) (data : ImageData) : Act Value := do
  return .image ⟨← serial, name, data⟩

/-- A value as text. -/
def shown (v : Value) : Act String := ofExcept v.display

/-- One of so many, by lot. -/
def choice (many : Nat) : Act Nat := do
  let w ← get
  let (number, lots) := w.lots.next
  set { w with lots }
  return (number.emod many).toNat

/-- Lets time pass. -/
def sleep (seconds : Value) (amount : Float) : Act Unit := do
  request .clock "sleep" [seconds] []
  modify fun w => { w with clock := w.clock + amount }

/-- The settings; that there are none is noted in the log. -/
def settings? : Act (Option Settings) := do
  match (← get).settings with
  | some settings => return some settings
  | none =>
    log .debug "配置文件未加载 !"
    return none

/-- The settings, of which a part is wanted; without them there is none. -/
def settings (member : String) : Act Settings := do
  match ← settings? with
  | some settings => return settings
  | none => throw (.noAttribute "NoneType" member)

end Act

/-- The way to a file from the folder of the program. -/
def World.route (w : World) (s : String) : Route := Route.ofText w.home.render s

end DeviceScript
