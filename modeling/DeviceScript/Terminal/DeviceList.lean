import DeviceScript.Terminal.ScriptList

/-!
# The list of devices

All devices are listed under the titles of their platforms. A device is tested by taking a
picture of its screen. Workers and threads of the whole program are run here, because a test is
one of the jobs of a worker.
-/

namespace DeviceScript.Terminal

/-- Loads the platforms and lists their devices. -/
def findDevices : Act (List (String × List Nat)) := do
  Act.loadPlatforms
  Act.listDevices

/-- Shows the devices that are found now. -/
def renewDevices (id : Nat) : Doing Unit := do
  let groups ← ActOn.ofAct findDevices
  setPage id (.devices groups)
  ask (.widget Kind.devices.label) "refresh" [] []
  let _ ← query id listName
  let buttons ← ActOn.ofAct (groupButtons groups)
  changeWidget id listName (Widget.withChildren buttons)
  ask (.widget "ScrollableContainer") "refresh" [] [("layout", .bool true)]
  tell "成功刷新了设备列表" []

/-- Looks for devices again; what goes wrong is only told. -/
def refreshDevices (id : Nat) : Doing Unit := do
  match ← ActOn.attempt (renewDevices id) with
  | .ok _ => return ()
  | .error e =>
    tell ("未知错误：" ++ e.message) [titled "刷新失败", severity "error"]

/-- Hands a test of a device to a worker. -/
def requestTest (name : Value) : Doing Unit := do
  tell ("尝试为设备 " ++ (← ActOn.ofExcept name.display) ++ " 截图 !") []
  let _ ← enqueue (.testDevice name)

/-- The picture of the screen of the device in use, in the file with a name. -/
def capture (file : String) : Act Value := do
  match (← Act.fleet).current with
  | none => throw (.noAttribute "NoneType" "screenshot")
  | some id =>
    match ← Act.deviceMember? id "screenshot" with
    | none => throw (.noAttribute "NoneType" "screenshot")
    | some member => member.call [] [("filePath", .text file)]

/-- Tests a device: a result of two parts counts as a failure. -/
def testDevice (name : Value) : Doing Unit := do
  ActOn.ofAct (Act.selectDevice name)
  let shown ← ActOn.ofExcept name.display
  let result ← ActOn.ofAct (capture (shown ++ ".png"))
  if (← ActOn.ofExcept result.length) = 2 then
    tell ("设备 " ++ shown ++ " 截图失败") [severity "error"]
  else tell ("设备 " ++ shown ++ " 截图成功 保存到 " ++ shown ++ ".png!") []

/-! ## Workers and threads -/

/-- What a worker does with its job. -/
def runJob : Job → Doing Unit
  | .testDevice name => testDevice name
  | job => startThread job

/-- Does something and keeps its failure. -/
def noting (act : Doing Unit) : Doing Unit := do
  match ← ActOn.attempt act with
  | .ok _ => return ()
  | .error e => modify fun state => { state with failures := state.failures ++ [e] }

/-- Runs the workers in the queue, first come first served, but at most the given number. -/
def runWorkers : Nat → Doing Unit
  | 0 => return ()
  | count + 1 => do
    match (← get).workers with
    | [] => return ()
    | worker :: workers => do
      modify fun state => { state with workers }
      noting (runJob worker.job)
      runWorkers count

/-- Lets all workers do their jobs. -/
def runQueue : Doing Unit := do runWorkers (← get).workers.length

/-- Runs threads and, before each, the workers in the queue, but at most the given number of
threads. -/
def runThreads : Nat → Doing Unit
  | 0 => return ()
  | count + 1 => do
    runQueue
    match (← get).threads with
    | [] => return ()
    | thread :: threads => do
      modify fun state => { state with threads }
      noting (runThread thread)
      runThreads count

/-- Runs all workers and threads; every worker makes at most one thread. -/
def runEverything : Doing Unit := do
  let state ← get
  runThreads (state.workers.length + state.threads.length + 1)

end DeviceScript.Terminal
