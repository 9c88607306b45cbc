import DeviceScript.Device.Browser
import DeviceScript.Device.Phone
import DeviceScript.Device.Workstation
import DeviceScript.World.Markup

/-!
# Platforms and the device in use

Three platforms are loaded in a fixed order: phones, the desktop and browsers. Each finds the
devices of its sort. Selecting a device by its name asks all platforms again, and the last
device with that name is taken.
-/

namespace DeviceScript

open Act

/-! ## Phones -/

/-- A process that still runs listens at the endpoint. -/
def Phones.holds (phones : Phones) (endpoint : Value) : Bool :=
  match phones.connections with
  | none => false
  | some connections => connections.any fun connection =>
      (Value.int connection.1).equal endpoint &&
        match connection.2 with
        | some process => !phones.gone.contains process
        | none => false

/-- Where the settings say that phones are. -/
def Settings.addresses (settings : Settings) : Value :=
  (Value.lookup? (.text "wifiadb") settings.extra).getD (.list [])

/-- Where the settings say that a driver is. -/
def Settings.driver (settings : Settings) (name : String) : Except Failure Path :=
  ((Value.lookup? (.text name) settings.webDrivers).getD (.text "")).toPath

/-- The failure says that nothing answered in time. -/
def Failure.isLate (e : Failure) : Bool := e.kind = .other "AdbTimeout"

namespace Platform

/-- The numbers of the devices that a platform has found. -/
def devices : Platform → List Nat
  | .phones found => found
  | .desktop found => found
  | .browsers _ _ _ found => found

/-- How lists name a platform. -/
def name : Platform → String
  | .phones _ => "安卓"
  | .desktop _ => "Windows"
  | .browsers .. => "网页浏览器"

/-- How a platform comes to its devices. -/
def description : Platform → String
  | .phones _ => "通过 USB 连接设备 或 配置文件配置通过网络的 adb 设备 添加"
  | .desktop _ => "当运行在 Windows 设备上时可用"
  | .browsers .. =>
    "通过前往配置文件配置 网页浏览器驱动路径 来添加 支持 msedgedriver(edge 浏览器), " ++
      "chromedriver(chrome 浏览器), geckodriver(firefox 浏览器)"

/-- What stands above the devices of a platform. -/
def title (platform : Platform) : String := platform.name ++ "\n" ++ platform.description

/-- Whether a phone answers at an address in time. Whatever else goes wrong is raised. -/
def answers (address : Value) : Act Bool := do
  match ← attempt (demand .phone "connect" [address] [("timeout", .float 3.0)]) with
  | .ok _ => return true
  | .error e => if e.isLate then return false else throw e

/-- What is noted about an address, at which a phone has answered or not. -/
def addressNote (address : String) (answered : Bool) : String :=
  "安卓设备 <y>" ++ address ++ "</y> " ++ if answered then "<g>连接成功</g>" else "<r>连接失败</r> 设备未配对?"

/-- Notes whether a phone answers at an address. -/
def connectPhone (address : Value) : Act Unit := do
  let answered ← answers address
  logColored (if answered then .success else .error) (addressNote (← shown address) answered)

/-- Connects the phones at the addresses in the settings. -/
def connectPhones : Act Unit := do
  let addresses := (← settings "extra").addresses
  if addresses.truthy then (← Act.ofExcept addresses.items).forM connectPhone

/-- The serials of the phones at hand, if these can be listed. -/
def serials : Act (List String) := do
  heed ⟨.phone, "device_list", [], []⟩
  return (← get).surroundings.phones.devices

/-- Adds phones by their serials, with a note on each. -/
def addPhones (note : String → Act Unit) : List String → Act (List Nat)
  | [] => return []
  | serial :: serials => do
    let id ← addDevice (.phone (← Phone.create serial))
    note serial
    return id :: (← addPhones note serials)

/-- What is noted about a phone that is found. -/
def phoneNote (serial : String) : String := "Android device: <g>" ++ serial ++ "</g>"

/-- Finds the phones over the link, and those at the addresses in the settings. -/
def findPhones : Act Platform := do
  connectPhones
  let serials ← serials
  if 1 < serials.length then log .debug "Android 设备列表: "
  return .phones (← addPhones (fun serial => logColored .debug (phoneNote serial)) serials)

/-- Opens the link to the phones, and finds them. That the link cannot be opened is noted, and then
there is none to go on with. -/
def loadPhones : Act Platform := do
  let phones := (← get).surroundings.phones
  match phones.linkError with
  | some cause => do
    log .warning ("platform adb loading failed. " ++ cause)
    log .debug "adbClient is running!"
    throw (.noAttribute "AdbPlatform" "adbclient")
  | none => do
    if phones.holds (.int phones.port) then log .debug "adbClient is running!"
    log .debug ("adbClient listening on port: " ++ toString phones.port)
    findPhones

/-! ## The desktop -/

/-- The desktop is a device on one system only. -/
def loadDesktop : Act Platform := do
  if (← get).surroundings.system = "Windows" then
    return .desktop [← addDevice (.workstation (← Workstation.create))]
  else return .desktop []

/-! ## Browsers -/

/-- Finds out where the drivers are; their browsers are looked for later. -/
def loadBrowsers : Act Platform := do
  let driver := fun name => do Act.ofExcept ((← settings "web_drivers").driver name)
  let edge ← driver "msedgedriver"
  let chrome ← driver "chromedriver"
  let firefox ← driver "geckodriver"
  return .browsers edge chrome firefox []

/-- Adds the browsers whose drivers exist; all of them use the one given. -/
def addBrowsers (shared : Path) : List (String × Path) → Act (List Nat)
  | [] => return []
  | (name, path) :: others => do
    if ← pathExists path then
      let id ← addDevice (.browser (Browser.create (.text name) shared))
      return id :: (← addBrowsers shared others)
    else addBrowsers shared others

/-! ## All platforms -/

/-- The platforms in the order in which they are loaded. -/
def loaders : List (Act Platform) := [loadPhones, loadDesktop, loadBrowsers]

/-- Finds the devices of a platform again. -/
def refresh : Platform → Act Platform
  | .phones _ => do return .phones (← addPhones (fun _ => pure ()) (← serials))
  | .desktop found => return .desktop found
  | .browsers edge chrome firefox _ => do
    return .browsers edge chrome firefox
      (← addBrowsers edge [("Edge", edge), ("Chrome", chrome), ("Firefox", firefox)])

end Platform

/-- The device with a number has a name. -/
def Fleet.isNamed (fleet : Fleet) (name : Value) (id : Nat) : Bool :=
  match fleet.devices[id]? with
  | some device => device.name.equal name
  | none => false

/-- The device that a platform has for a name: the desktop takes any name. -/
def Fleet.pick (fleet : Fleet) (name : Value) : Platform → Except Failure (Option Nat)
  | .desktop (id :: _) => .ok (some id)
  | .desktop [] => .error (.indexOut "list")
  | platform => .ok (platform.devices.find? (fleet.isNamed name))

/-- The last of the listed devices that has a name. -/
def Fleet.last? (fleet : Fleet) (name : Value) (listed : List (String × List Nat)) : Option Nat :=
  ((listed.flatMap (·.2)).filter (fleet.isNamed name)).getLast?

/-- The name of the device with the number. -/
def Fleet.nameOf (fleet : Fleet) (id : Nat) : Value :=
  (fleet.devices[id]?.map Device.name).getD .none

/-- Devices under a title; a title that is there already keeps its place. -/
def putTitle (title : String) (ids : List Nat) : List (String × List Nat) → List (String × List Nat)
  | [] => [(title, ids)]
  | entry :: entries =>
    if entry.1 = title then (title, ids) :: entries else entry :: putTitle title ids entries

/-- The devices of all platforms, by the titles of these. -/
def Fleet.listed (fleet : Fleet) : List (String × List Nat) :=
  fleet.platforms.foldl (fun entries platform => putTitle platform.title platform.devices entries)
    []

namespace Act

/-- The devices and platforms as they are now. -/
def fleet : Act Fleet := return (← get).fleet

/-- Changes devices and platforms. -/
def modifyFleet (change : Fleet → Fleet) : Act Unit :=
  modify fun w => { w with fleet := change w.fleet }

/-- Loads all platforms, beside those that have been loaded before. -/
def loadPlatforms : Act Unit :=
  Platform.loaders.forM fun load => do
    let platform ← load
    modifyFleet fun fleet => { fleet with platforms := fleet.platforms ++ [platform] }

/-- Finds the devices of the platforms again, one after another. -/
def refreshFrom : Nat → List Platform → Act Unit
  | _, [] => return ()
  | number, platform :: platforms => do
    let platform ← platform.refresh
    modifyFleet fun fleet => { fleet with platforms := fleet.platforms.set number platform }
    refreshFrom (number + 1) platforms

/-- All devices, found again, by the titles of their platforms. -/
def listDevices : Act (List (String × List Nat)) := do
  refreshFrom 0 (← fleet).platforms
  return (← fleet).listed

/-- The names of all devices, found again, by the titles of their platforms. -/
def deviceNames : Act Value := do
  let listed ← listDevices
  let fleet ← fleet
  return .dict (listed.map fun (title, ids) => (.text title, .list (ids.map fleet.nameOf)))

/-- The name of the device that a platform picks for a name. -/
def pickedName (name : Value) (platform : Platform) : Act Value := do
  let fleet ← fleet
  return ((← ofExcept (fleet.pick name platform)).map fleet.nameOf).getD .none

/-- Makes the last device with a name the one in use; if there is none, the one in use
stays. -/
def selectDevice (name : Value) : Act Unit := do
  let listed ← listDevices
  modifyFleet fun fleet =>
    { fleet with current := (fleet.last? name listed).or fleet.current }

/-- The device in use is the one that a script keeps from now on. -/
def hold (script : Nat) : Act Unit :=
  modifyFleet fun fleet =>
    { fleet with held := fun other => if other = script then fleet.current else fleet.held other }

/-- A part of a device, by its name. -/
def deviceMember? (id : Nat) (name : String) : Act (Option Member) := do
  match ← deviceAt? id with
  | none => return none
  | some device => do
    let own ←
      match device with
      | .phone _ => Phone.member? id name
      | .workstation _ => Workstation.member? id name
      | .browser _ => Browser.member? id name
    return own.or (commonMember? device.sort name)

end Act

/-- The device with a part replaced by a script. -/
def Device.withPart? (name : String) (v : Value) : Device → Option Device
  | .phone state => (state.withPart? name v).map .phone
  | .workstation state => (state.withPart? name v).map .workstation
  | .browser state => (state.withPart? name v).map .browser

/-- How scripts use the device with the number. -/
def Device.interface (sort : String) (id : Nat) : Interface Unit where
  sort := sort
  find name := ActOn.ofAct do
    match ← deviceMember? id name with
    | some (.operation callee) =>
      return some (.method ⟨callee.signature, fun vs => ActOn.ofAct (callee.action vs)⟩)
    | some (.value content) => return some (.value content)
    | none => return none
  replace name v := ActOn.ofAct do
    match (← deviceAt? id).bind (Device.withPart? name v) with
    | some device => do
      setDevice id device
      return true
    | none => return false

end DeviceScript
